import WebGateway.Logging.Event
import WebGateway.Text.Blank

/-!
# Log filters

A filter is a list of directives separated by commas: `level` for all sources, `source=level` for
the sources that begin so, and `source` for everything that these report. The directive with the
longest beginning decides about an event, and of two for the same beginning the later one; an event
that no directive speaks of is not shown. A directive may name spans in brackets; it says nothing
about events that are reported outside of them.
-/

set_option autoImplicit false
set_option relaxedAutoImplicit false

namespace WebGateway.Logging

/-- The last level that is shown, if any is. -/
abbrev Verbosity :=
  Option Level

/-- Events of the level are shown. -/
def Verbosity.shows (verbosity : Verbosity) (level : Level) : Bool :=
  match verbosity with
  | some last => level.rank ≤ last.rank
  | none => false

inductive Directive where
  | events (beginning : String) (verbosity : Verbosity)
  | spans
deriving DecidableEq, Repr

abbrev Filter :=
  List Directive

/-- The names of levels in any case. -/
def Verbosity.ofName? (name : List Char) : Option Verbosity :=
  let upper := String.ofList (name.map Char.toUpper)
  if upper = "OFF" then some none
  else (Level.all.find? fun level ↦ level.name = upper).map some

/-- The number of a level, with a sign or leading zeros if they are written. -/
def Verbosity.ofNumber? (text : List Char) : Option Verbosity :=
  let digits := match text with
    | '+' :: digits => digits
    | digits => digits
  if digits ≠ [] ∧ digits.all Char.isDigit then
    match digits.dropWhile (· == '0') with
    | [] => some none
    | [digit] =>
      (Level.all.find? fun level ↦ level.rank = digit.toNat - '0'.toNat).map some
    | _ => none
  else none

def Verbosity.parse? (text : List Char) : Option Verbosity :=
  (Verbosity.ofNumber? text).or (Verbosity.ofName? text)

/-- What stands behind the equals sign of a directive; nothing stands for everything. -/
def Verbosity.assigned? (text : List Char) : Option Verbosity :=
  if text = [] then some (some .trace) else Verbosity.parse? text

namespace Directive

/-- The character may begin the name of a source. -/
def isInitial (c : Char) : Bool :=
  c.isAlphanum || c == '_' || c == '-' || c == ':' || 0x80 ≤ c.toNat

/-- A directive about spans, from the opening bracket on. -/
def ofSpan? (text : List Char) : Option Directive :=
  match text.dropWhile (· ≠ ']') with
  | [']'] => some .spans
  | ']' :: '=' :: level => (Verbosity.assigned? level).map fun _ ↦ .spans
  | _ => none

def parse? (text : List Char) : Option Directive :=
  let text := Text.trimEnds Text.isBlank text
  match text with
  | [] => none
  | '[' :: rest => ofSpan? rest
  | c :: _ =>
    if isInitial c then
      let word := text.takeWhile fun c ↦ c ≠ '=' && c ≠ '['
      match text.dropWhile fun c ↦ c ≠ '=' && c ≠ '[' with
      | [] =>
        match Verbosity.parse? word with
        | some verbosity => some (.events "" verbosity)
        | none => some (.events (String.ofList word) (some .trace))
      | '=' :: level => (Verbosity.assigned? level).map (.events (String.ofList word))
      | _ :: rest => ofSpan? rest
    else none

/-- What the directive says about a source, with the length of its beginning. -/
def forSource? (source : String) : Directive → Option (Nat × Verbosity)
  | events beginning verbosity =>
    if beginning.toList.isPrefixOf source.toList then some (beginning.length, verbosity) else none
  | spans => none

end Directive

namespace Filter

/-- Reads a filter; nothing if any of its directives cannot be read. -/
def parse? (text : String) : Option Filter :=
  if text = "" then some [] else (text.toList.splitOn ',').mapM Directive.parse?

/-- How much is shown of a source. -/
def verbosity (filter : Filter) (source : String) : Verbosity :=
  ((filter.filterMap (Directive.forSource? source)).foldl
    (fun best next ↦ if best.1 ≤ next.1 then next else best) (0, none)).2

def shows (filter : Filter) (event : Event) : Bool :=
  (filter.verbosity event.source).shows event.level

end Filter

end WebGateway.Logging
