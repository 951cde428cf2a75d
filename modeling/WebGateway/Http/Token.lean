/-!
# Tokens

The words that HTTP uses for methods and header names: one or more characters, each a letter or
digit of ASCII or one of fifteen signs.
-/

set_option autoImplicit false
set_option relaxedAutoImplicit false

namespace WebGateway.Http

/-- The character may stand in a token. -/
def isTokenChar (c : Char) : Bool :=
  c.isAlphanum ||
    ['!', '#', '$', '%', '&', '\'', '*', '+', '-', '.', '^', '_', '\x60', '|', '~'].contains c

/-- The text is a token. -/
def isToken (text : String) : Bool :=
  text.toList ≠ [] && text.toList.all isTokenChar

end WebGateway.Http
