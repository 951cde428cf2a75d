import WebGateway.Text.Blank

/-!
# Quoted text

A text between double quotes, with escapes for the quote, the backslash, and every character that
would not be seen.
-/

set_option autoImplicit false
set_option relaxedAutoImplicit false

namespace WebGateway.Text

/-- The character leaves no visible trace: a control or format character, or a blank other than the
space. -/
def isUnseen (c : Char) : Bool :=
  let n := c.toNat
  n < 0x20 || (0x7F ≤ n && n ≤ 0x9F) || (isBlank c && c != ' ') || n == 0xAD ||
    (0x200B ≤ n && n ≤ 0x200F) || (0x202A ≤ n && n ≤ 0x202E) || (0x2060 ≤ n && n ≤ 0x206F) ||
    n == 0xFEFF || (0xE000 ≤ n && n ≤ 0xF8FF)

/-- The characters that have an escape of their own, each with its letter. -/
def escapeLetters : List (Char × Char) :=
  [('\x00', '0'), ('\t', 't'), ('\n', 'n'), ('\r', 'r'), ('"', '"'), ('\\', '\\')]

/-- A character as it stands between quotes. -/
def quoteChar (c : Char) : List Char :=
  match escapeLetters.lookup c with
  | some letter => ['\\', letter]
  | none =>
    if isUnseen c then ['\\', 'u', '\x7b'] ++ Nat.toDigits 16 c.toNat ++ ['\x7d'] else [c]

/-- The text between quotes. -/
def quoted (text : List Char) : String :=
  String.ofList ('"' :: text.flatMap quoteChar ++ ['"'])

end WebGateway.Text
