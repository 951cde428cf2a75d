import WebGateway.Http.Token

/-!
# Request methods

A method is any token; the case of its letters matters.
-/

set_option autoImplicit false
set_option relaxedAutoImplicit false

namespace WebGateway.Http

structure Method where
  text : String
  isToken : Http.isToken text = true := by decide
deriving DecidableEq, Repr

namespace Method

def parse? (text : String) : Option Method :=
  if h : Http.isToken text = true then some ⟨text, h⟩ else none

def get : Method := { text := "GET" }

def head : Method := { text := "HEAD" }

def connect : Method := { text := "CONNECT" }

/-- The list of methods as the `Allow` field writes it. -/
def allowText (methods : List Method) : String :=
  String.intercalate ", " (methods.map Method.text)

/-- The words of a text, where each comma with a space behind it stands between two words. -/
def listedWords : List Char → List (List Char)
  | [] => [[]]
  | ',' :: ' ' :: rest => [] :: listedWords rest
  | c :: rest => (listedWords rest).modifyHead (c :: ·)

end Method

end WebGateway.Http
