/-!
# Path patterns

A pattern matches one path exactly, every path that begins with a text, or every path. Its literal
is the text that it claims; two patterns with one literal would claim the same path.
-/

set_option autoImplicit false
set_option relaxedAutoImplicit false

namespace WebGateway.Routing

inductive Pattern where
  | exact (literal : String)
  | beginning (literal : String)
  | catchAll
deriving DecidableEq, Repr

namespace Pattern

def literal : Pattern → String
  | exact literal => literal
  | beginning literal => literal
  | catchAll => "/"

def accepts : Pattern → String → Bool
  | exact literal, path => path == literal
  | beginning literal, path => literal.toList.isPrefixOf path.toList
  | catchAll, _ => true

/-- The pattern as it is shown to people: `=` marks an exact one and `*` an open end. -/
def display : Pattern → String
  | exact literal => "=" ++ literal
  | beginning literal => literal ++ "*"
  | catchAll => "/*"

@[simp]
theorem accepts_exact {literal path : String} :
    (exact literal).accepts path = true ↔ path = literal := by
  simp [accepts]

@[simp]
theorem accepts_beginning {literal path : String} :
    (beginning literal).accepts path = true ↔ literal.toList <+: path.toList := by
  simp [accepts]

@[simp]
theorem accepts_catchAll (path : String) : catchAll.accepts path = true :=
  rfl

end Pattern

end WebGateway.Routing
