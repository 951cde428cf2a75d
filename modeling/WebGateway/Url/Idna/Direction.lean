import WebGateway.Url.Idna.DirectionRanges

/-!
# Labels that are written from right to left

In a domain name with characters that are written from right to left, each label has one direction,
so that it cannot be shown in a way that changes its order. A label begins with a letter; in one
that is written from right to left no letters of the other direction and only one kind of digits
stand; and a label ends in a letter of its direction or a digit, marks aside.
-/

set_option autoImplicit false
set_option relaxedAutoImplicit false

namespace WebGateway.Url.Idna

def inRanges (ranges : List (Nat × Nat)) (point : Nat) : Bool :=
  ranges.any fun (first, last) ↦ first ≤ point && point ≤ last

def directionOf (point : Nat) : Direction :=
  match directions.find? fun (first, last, _) ↦ first ≤ point && point ≤ last with
  | some (_, _, direction) => direction
  | none => .left

/-- The characters of a name that can be seen to run from right to left. -/
def runsRight (point : Nat) : Bool :=
  directionOf point == .right || directionOf point == .arabicNumber

/-- The last direction of a label that is not that of a mark. -/
def lastDirection? (label : List Direction) : Option Direction :=
  (label.filter (· ≠ .mark)).getLast?

/-- The label can be shown without changing its order. -/
def isDirected (label : List Nat) : Bool :=
  let directions := label.map directionOf
  match directions.head? with
  | none => true
  | some .left =>
    directions.all (fun d ↦ d ≠ .right && d ≠ .arabicNumber) &&
      (lastDirection? directions).any fun d ↦ d == .left || d == .europeanNumber
  | some .right =>
    directions.all (· ≠ .left) &&
      !(directions.contains .europeanNumber && directions.contains .arabicNumber) &&
      (lastDirection? directions).any fun d ↦
        d == .right || d == .europeanNumber || d == .arabicNumber
  | some _ => false

/-- Every label of the name can be shown without changing its order. -/
def directionsAllowed (labels : List (List Nat)) : Bool :=
  !labels.any (·.any runsRight) || labels.all isDirected

/-- What stands between a joiner and the letters that it joins: marks are passed over. -/
def skipMarks (points : List Nat) : List Nat :=
  points.dropWhile fun point ↦ directionOf point == .mark

/-- A separator stands between two letters that would join. -/
def separatesLetters (before after : List Nat) : Bool :=
  (skipMarks before).head?.any (inRanges joinsBehind) &&
    (skipMarks after).head?.any (inRanges joinsBefore)

end WebGateway.Url.Idna
