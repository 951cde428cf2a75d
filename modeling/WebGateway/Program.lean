import WebGateway.Config.CommandLine
import WebGateway.Service.Serving
import WebGateway.Logging.Filter

/-!
# The program

What the program writes and with which code it ends, as a function of its arguments and of what it
finds around it. A command line that is not followed is answered at once. Settings are shown on
standard output before the gateway starts; events go to the log, as far as the filter shows them. A
gateway that comes up serves until a signal ends it.
-/

set_option autoImplicit false
set_option relaxedAutoImplicit false

namespace WebGateway.Program

open Config (FlagError Flags Settings)
open Service (OsSignal StartError)
open Logging (Event Filter)

/-- What the program finds: files, sockets, the log filter that the environment asks for, and the
signal that ends the gateway. -/
structure Surroundings where
  disk : Disk.Node
  network : Net.Network
  logFilter : Option String
  signal : OsSignal

/-- What the program leaves behind. -/
structure Outcome where
  code : Nat
  output : String
  complaint : Option String
  events : List Event
deriving DecidableEq, Repr

namespace Outcome

/-- The log lines that tell of trouble. -/
def troubles (outcome : Outcome) : List String :=
  (outcome.events.filter fun event ↦ event.level = .error || event.level = .warn).map
    Event.headLine

/-- The first line on standard error that begins no log event. -/
def remark? (outcome : Outcome) : Option String :=
  outcome.complaint.or
    ((outcome.events.flatMap fun event ↦ event.lines.tail).head?.map String.ofList)

/-- The names of the levels of all events, each once and in alphabetical order. -/
def levels (outcome : Outcome) : List String :=
  ([.debug, .error, .info, .trace, .warn].filter fun level ↦
    outcome.events.any fun event ↦ event.level = level).map Logging.Level.name

end Outcome

/-- The end of a program that does not follow its command line. -/
def refuse (error : FlagError) : Outcome :=
  match error with
  | .helpWanted => ⟨0, error.message, none, []⟩
  | .versionWanted => ⟨0, error.message, none, []⟩
  | _ => ⟨2, "", some error.message, []⟩

/-- The filter of the environment, if it can be read, and otherwise the one that the flags imply. -/
def chooseFilter (asked : Option String) (debug : Bool) : Filter :=
  (asked.bind Filter.parse?).getD ((Filter.parse? (Config.impliedDirectives debug)).getD [])

/-- The event that tells why the program ends. -/
def fatal (error : StartError) : Event where
  level := .error
  source := "libre_webui"
  message := "Fatal error, exiting"
  details := [
    ("module", Text.quoted "libresbc".toList),
    ("function", Text.quoted "webui".toList),
    ("action", Text.quoted error.action.toList),
    ("error", error.message)]

/-- What is shown on standard output before the gateway starts. -/
def greeting (disk : Disk.Node) (flags : Flags) : String :=
  match Settings.ofFlags disk flags with
  | .ok settings => settings.banner
  | .error _ => ""

/-- Runs the program with flags. -/
def follow (surroundings : Surroundings) (flags : Flags) : Outcome :=
  let (result, progress) :=
    (Service.startFromFlags surroundings.disk flags).run surroundings.network
  let ending := match result with
    | .ok running => running.events surroundings.signal
    | .error error => [fatal error]
  { code := if result.isOk then 0 else 1
    output := greeting surroundings.disk flags
    complaint := none
    events := (progress.events ++ ending).filter
      (chooseFilter surroundings.logFilter flags.debug).shows }

/-- Runs the program with arguments. -/
def run (surroundings : Surroundings) (arguments : List String) : Outcome :=
  match Flags.parse arguments with
  | .ok flags => follow surroundings flags
  | .error error => refuse error

end WebGateway.Program
