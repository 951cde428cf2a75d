/-!
# How characters are mapped in host names

Each range of code points has one rule: its characters stand for themselves, vanish, are shifted by
an offset, alternate between capitals and their small letters, or are spelled by others, all alike
or each in its own way. Characters in no range are refused.
-/

set_option autoImplicit false
set_option relaxedAutoImplicit false

namespace WebGateway.Url.Idna

inductive Mapping where
  | valid
  | dropped
  | shifted (offset : Int)
  | paired
  | spelled (points : List Nat)
  | listed (points : List Nat)
  | spelledEach (words : List (List Nat))
deriving DecidableEq, Repr

structure Range where
  first : Nat
  last : Nat
  mapping : Mapping
deriving DecidableEq, Repr

/-- What a code point in the range becomes. -/
def Range.map (range : Range) (point : Nat) : List Nat :=
  match range.mapping with
  | .valid => [point]
  | .dropped => []
  | .shifted offset => [(point + offset : Int).toNat]
  | .paired => if (point - range.first) % 2 = 0 then [point + 1] else [point]
  | .spelled points => points
  | .listed points => (points.drop (point - range.first)).take 1
  | .spelledEach words => words.getD (point - range.first) []

/-- What a code point becomes by the range that holds it. -/
def mapIn? (ranges : List Range) (point : Nat) : Option (List Nat) :=
  (ranges.find? fun range ↦ range.first ≤ point && point ≤ range.last).map (·.map point)

end WebGateway.Url.Idna
