import WebGateway.Text.Trim

/-!
# Blank characters

The characters of the Unicode property `White_Space`, and the text that is left of a string when
the blanks at both of its ends are taken away.
-/

set_option autoImplicit false
set_option relaxedAutoImplicit false

namespace WebGateway.Text

/-- The character has the Unicode property `White_Space`. -/
def isBlank (c : Char) : Bool :=
  let n := c.toNat
  (0x9 ≤ n && n ≤ 0xD) || n == 0x20 || n == 0x85 || n == 0xA0 || n == 0x1680 ||
    (0x2000 ≤ n && n ≤ 0x200A) || n == 0x2028 || n == 0x2029 || n == 0x202F || n == 0x205F ||
    n == 0x3000

/-- The text without the blanks at both ends. -/
def trimBlanks (text : String) : String :=
  String.ofList (trimEnds isBlank text.toList)

@[simp]
theorem toList_trimBlanks (text : String) :
    (trimBlanks text).toList = trimEnds isBlank text.toList := by
  simp [trimBlanks]

end WebGateway.Text
