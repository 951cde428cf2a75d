import WebGateway.Text.Quoted

/-!
# Log events

An event has a level, the name of the part that reports it, a message, and named details. Its line
gives them in this order.
-/

set_option autoImplicit false
set_option relaxedAutoImplicit false

namespace WebGateway.Logging

inductive Level where
  | error
  | warn
  | info
  | debug
  | trace
deriving DecidableEq, Repr

namespace Level

def all : List Level :=
  [error, warn, info, debug, trace]

def name : Level → String
  | error => "ERROR"
  | warn => "WARN"
  | info => "INFO"
  | debug => "DEBUG"
  | trace => "TRACE"

/-- How much is shown with this level: its own events and those of all levels before it. -/
def rank : Level → Nat
  | error => 1
  | warn => 2
  | info => 3
  | debug => 4
  | trace => 5

end Level

structure Event where
  level : Level
  source : String
  message : String
  details : List (String × String)
deriving DecidableEq, Repr

namespace Event

/-- A detail as it is shown. -/
def detailText (detail : String × String) : String :=
  " " ++ detail.1 ++ "=" ++ detail.2

/-- The event without the time at which it was reported. -/
def text (event : Event) : String :=
  event.level.name ++ " " ++ event.source ++ ": " ++ event.message ++
    String.join (event.details.map detailText)

/-- The lines of an event: only a text in it that has several makes several. -/
def lines (event : Event) : List (List Char) :=
  event.text.toList.splitOn '\n'

/-- The line that begins with the level. -/
def headLine (event : Event) : String :=
  String.ofList (event.lines.headD [])

end Event

/-- A list of texts between brackets. -/
def bracketed (texts : List String) : String :=
  "[" ++ String.intercalate ", " (texts.map fun text ↦ Text.quoted text.toList) ++ "]"

end WebGateway.Logging
