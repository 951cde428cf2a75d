import WebGateway.Http.Method
import WebGateway.Routing.Pattern

/-!
# The routing table

The table is a list of rules that is read from the front: the health probe, the proxied path
beginnings from the longest to the shortest, and the static bundle, which takes every other path.
The first rule whose pattern accepts the path decides; where it does not accept the method, no
later rule is asked.
-/

set_option autoImplicit false
set_option relaxedAutoImplicit false

namespace WebGateway.Routing

open Http (Method)

/-- Who answers a request. -/
inductive Handler where
  | health
  | proxy
  | static
deriving DecidableEq, Repr

/-- A rule sends the paths of a pattern to a handler; without a list of methods it takes all. -/
structure Rule where
  pattern : Pattern
  handler : Handler
  methods : Option (List Method)
deriving DecidableEq, Repr

def Rule.takes (rule : Rule) (method : Method) : Bool :=
  match rule.methods with
  | none => true
  | some methods => methods.contains method

/-- What the table decides for a request. -/
inductive Decision where
  | handled (handler : Handler)
  | methodNotAllowed (handler : Handler) (allowed : List Method)
deriving DecidableEq, Repr

/-- Why a list of path beginnings makes no table. -/
inductive TableError where
  | withoutSlash (literal : String)
  | claimedTwice (literal : String)
deriving DecidableEq, Repr

def TableError.message : TableError → String
  | withoutSlash literal => "proxy prefix '" ++ literal ++ "' must start with '/'"
  | claimedTwice literal => "path '" ++ literal ++ "' is claimed by more than one route"

structure Table where
  rules : List Rule
deriving DecidableEq, Repr

def probePath : String :=
  "/healthcheck"

/-- The path beginnings that are always proxied. -/
def defaultBeginnings : List String :=
  ["/libreapi", "/apidocs", "/openapi.json"]

def Rule.health : Rule :=
  ⟨.exact probePath, .health, some [.get]⟩

def Rule.proxy (literal : String) : Rule :=
  ⟨.beginning literal, .proxy, none⟩

def Rule.static : Rule :=
  ⟨.catchAll, .static, some [.get, .head]⟩

/-- Longer texts first; texts of one length, in octets, keep their order. -/
def longestFirst (literals : List String) : List String :=
  literals.mergeSort fun first second ↦ second.utf8ByteSize ≤ first.utf8ByteSize

/-- The first element that an earlier one equals, where `seen` came before the list. -/
def firstRepeated {α : Type} [DecidableEq α] (seen : List α) : List α → Option α
  | [] => none
  | x :: rest => if x ∈ seen then some x else firstRepeated (x :: seen) rest

/-- The text begins with a slash. -/
def startsWithSlash (text : String) : Bool :=
  text.toList.head? == some '/'

namespace Table

/-- The rules for the default path beginnings and the given ones. -/
def rulesFor (extra : List String) : List Rule :=
  .health :: (longestFirst (defaultBeginnings ++ extra)).map .proxy ++ [.static]

/-- The table of the default path beginnings and the given ones. Each has to begin with a slash,
and no path may be claimed twice. -/
def ofBeginnings (extra : List String) : Except TableError Table :=
  match extra.find? fun literal ↦ !startsWithSlash literal with
  | some literal => .error (.withoutSlash literal)
  | none =>
    let rules := rulesFor extra
    match firstRepeated [] (rules.map fun rule ↦ rule.pattern.literal) with
    | some literal => .error (.claimedTwice literal)
    | none => .ok ⟨rules⟩

/-- The table of the default path beginnings alone. -/
def default : Table :=
  ⟨rulesFor []⟩

def resolve (table : Table) (method : Method) (path : String) : Decision :=
  match table.rules.find? fun rule ↦ rule.pattern.accepts path with
  | none => .handled .static
  | some rule =>
    if rule.takes method then .handled rule.handler
    else .methodNotAllowed rule.handler (rule.methods.getD [])

end Table

end WebGateway.Routing
