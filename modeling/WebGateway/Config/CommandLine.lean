import WebGateway.Config.Flags

/-!
# The command line

Arguments are read one after the other. A flag that waits for its value is settled when the next
known flag comes, or at the end; a value that is attached to its flag is taken at once. An argument
that is not known is refused where it stands, before a waiting flag is settled.
-/

set_option autoImplicit false
set_option relaxedAutoImplicit false

namespace WebGateway.Config

/-- Reads decimal digits up to a limit; the first character that fails decides. -/
def readDigits (limit : Nat) (overflow : PortError) : Nat → List Char → Except PortError Nat
  | value, [] => .ok value
  | value, c :: rest =>
    if !c.isDigit then .error .badDigit
    else
      let next := 10 * value + (c.toNat - '0'.toNat)
      if limit < next then .error overflow else readDigits limit overflow next rest

/-- Reads a whole number of 64 bits with an optional sign. -/
def readInteger (text : List Char) : Except PortError Int :=
  match text with
  | [] => .error .empty
  | ['+'] => .error .badDigit
  | ['-'] => .error .badDigit
  | '+' :: digits => (readDigits 9223372036854775807 .tooLarge 0 digits).map Int.ofNat
  | '-' :: digits =>
    (readDigits 9223372036854775808 .tooSmall 0 digits).map fun value ↦ -Int.ofNat value
  | digits => (readDigits 9223372036854775807 .tooLarge 0 digits).map Int.ofNat

/-- Reads a port number. -/
def readPort (text : String) : Except PortError UInt16 := do
  let number ← readInteger text.toList
  if 0 ≤ number ∧ number ≤ 65535 then return UInt16.ofNat number.toNat
  else .error (.outOfRange number)

/-- A flag that was given without a value attached, and the value that followed it. -/
structure Waiting where
  flag : ValueFlag
  value : Option String
deriving DecidableEq, Repr

/-- What is known after some arguments: the flags, those that were given, the one that waits for its
value, and whether the flags have ended. -/
structure CommandLine where
  flags : Flags
  given : List ValueFlag
  switched : List Switch
  waiting : Option Waiting
  ended : Bool
deriving DecidableEq, Repr

namespace CommandLine

def start : CommandLine :=
  ⟨{}, [], [], none, false⟩

/-- Sets the value of a flag. -/
def assign (flags : Flags) (flag : ValueFlag) (value : String) : Except FlagError Flags :=
  if flag.isPath = true ∧ value = "" then .error (.valueMissing flag)
  else
    match flag with
    | .host => .ok { flags with host := value }
    | .port =>
      match readPort value with
      | .ok port => .ok { flags with port := port }
      | .error cause => .error (.badPort value cause)
    | .api => .ok { flags with api := value }
    | .domain => .ok { flags with domain := value }
    | .certs => .ok { flags with certs := value }
    | .webRoot => .ok { flags with webRoot := value }
    | .proxyBeginning => .ok { flags with beginnings := flags.beginnings ++ [value] }
    | .authorities => .ok { flags with authorities := some value }

/-- Takes a flag with its value. -/
def take (line : CommandLine) (flag : ValueFlag) (value : String) :
    Except FlagError CommandLine :=
  if line.given.contains flag && !flag.isRepeatable then .error (.repeated flag.display)
  else (assign line.flags flag value).map fun flags ↦
    { line with flags := flags, given := flag :: line.given }

/-- Settles the flag that waits for its value. -/
def settle (line : CommandLine) : Except FlagError CommandLine :=
  match line.waiting with
  | none => .ok line
  | some ⟨flag, none⟩ => .error (.valueMissing flag)
  | some ⟨flag, some value⟩ => { line with waiting := none }.take flag value

/-- A flag with its value attached. -/
def attached (line : CommandLine) (flag : ValueFlag) (value : String) :
    Except FlagError CommandLine := do
  (← line.settle).take flag value

/-- A flag that waits for its value. -/
def awaitValue (line : CommandLine) (flag : ValueFlag) : Except FlagError CommandLine := do
  return { ← line.settle with waiting := some ⟨flag, none⟩ }

/-- A flag that stands alone. -/
def turnOn (line : CommandLine) (switch : Switch) : Except FlagError CommandLine := do
  let line ← line.settle
  if line.switched.contains switch then .error (.repeated switch.display)
  else
    let line := { line with switched := switch :: line.switched }
    match switch with
    | .debug => return { line with flags := { line.flags with debug := true } }
    | .tls => return { line with flags := { line.flags with tls := true } }
    | .help => .error .helpWanted
    | .version => .error .versionWanted

/-- An argument that is no flag: the value of the flag that waits for one. -/
def positional (line : CommandLine) (argument : String) : Except FlagError CommandLine :=
  match line.waiting with
  | some ⟨flag, none⟩ => .ok { line with waiting := some ⟨flag, some argument⟩ }
  | _ => .error (.unexpected argument)

/-- The argument `--name` or `--name=value`, without the hyphens. -/
def long (line : CommandLine) (text : List Char) : Except FlagError CommandLine :=
  let name := String.ofList (text.takeWhile (· ≠ '='))
  let value? := match text.dropWhile (· ≠ '=') with
    | [] => none
    | _ :: value => some (String.ofList value)
  match ValueFlag.all.find? fun flag ↦ flag.long = name with
  | some flag =>
    match value? with
    | some value => line.attached flag value
    | none => line.awaitValue flag
  | none =>
    match Switch.all.find? fun switch ↦ switch.long = name with
    | some switch =>
      match value? with
      | some value => .error (.valueNotExpected switch value)
      | none => line.turnOn switch
    | none => .error (.unexpected ("--" ++ name))

/-- The characters of an argument behind a single hyphen: switches, and a flag that takes the rest
for its value. -/
def cluster (line : CommandLine) : List Char → Except FlagError CommandLine
  | [] => .ok line
  | c :: rest =>
    match ValueFlag.all.find? fun flag ↦ flag.short? = some c with
    | some flag =>
      match rest with
      | [] => line.awaitValue flag
      | '=' :: value => line.attached flag (String.ofList value)
      | value => line.attached flag (String.ofList value)
    | none =>
      match Switch.all.find? fun switch ↦ switch.short = c with
      | some switch =>
        match line.turnOn switch with
        | .ok line => line.cluster rest
        | .error error => .error error
      | none => .error (.unexpected ("-" ++ String.singleton c))

/-- Reads the next argument. -/
def step (line : CommandLine) (argument : String) : Except FlagError CommandLine :=
  if line.ended then .error (.unexpected argument)
  else
    match argument.toList with
    | ['-', '-'] => .ok { line with ended := true }
    | '-' :: '-' :: text => line.long text
    | ['-'] => line.positional argument
    | '-' :: text => line.cluster text
    | _ => line.positional argument

end CommandLine

/-- The flags of a command line. -/
def Flags.parse (arguments : List String) : Except FlagError Flags := do
  let line ← arguments.foldlM CommandLine.step .start
  return (← line.settle).flags

end WebGateway.Config
