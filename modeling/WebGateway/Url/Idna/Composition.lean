import WebGateway.Url.Idna.MarkRanges

/-!
# Composed characters

A letter and the marks on it can be written as several code points or as one. `normalize` takes
every letter apart, puts marks that do not interact into a fixed order, and joins each letter with
the marks behind it as far as joined letters exist. Korean syllables are joined by arithmetic.
-/

set_option autoImplicit false
set_option relaxedAutoImplicit false

namespace WebGateway.Url.Idna

/-- The canonical combining class: marks of different classes may change places. -/
def combiningClass (point : Nat) : Nat :=
  match combiningClasses.find? fun (first, last, _) ↦ first ≤ point && point ≤ last with
  | some (_, _, value) => value
  | none => 0

/-- The syllable of a Korean lead consonant and vowel, or of a syllable and a final consonant. -/
def composeSyllable? (first second : Nat) : Option Nat :=
  if 0x1100 ≤ first ∧ first < 0x1113 ∧ 0x1161 ≤ second ∧ second < 0x1176 then
    some (0xAC00 + ((first - 0x1100) * 21 + (second - 0x1161)) * 28)
  else if 0xAC00 ≤ first ∧ first < 0xD7A4 ∧ (first - 0xAC00) % 28 = 0 ∧ 0x11A7 < second ∧
      second < 0x11C3 then
    some (first + (second - 0x11A7))
  else none

/-- The single code point that a letter and a mark behind it can be written as. -/
def compose? (letter mark : Nat) : Option Nat :=
  (composeSyllable? letter mark).or
    ((compositions.lookup mark).bind fun letters ↦ letters.lookup letter)

/-- The letter and the mark that a code point is composed of. -/
def decompose? (point : Nat) : Option (Nat × Nat) :=
  compositions.findSome? fun (mark, letters) ↦
    (letters.find? fun (_, joined) ↦ joined = point).map fun (letter, _) ↦ (letter, mark)

/-- The parts of a Korean syllable. -/
def syllableParts (point : Nat) : List Nat :=
  let index := point - 0xAC00
  [0x1100 + index / 588, 0x1161 + index % 588 / 28] ++
    if index % 28 = 0 then [] else [0x11A7 + index % 28]

/-- No letter is composed of more than four code points. -/
def maxCompositionDepth : Nat :=
  4

/-- The code points that a code point is composed of, taken apart at most `depth` times. -/
def takeApart : Nat → Nat → List Nat
  | 0, point => [point]
  | depth + 1, point =>
    if 0xAC00 ≤ point ∧ point < 0xD7A4 then syllableParts point
    else
      match decompose? point with
      | some (letter, mark) => takeApart depth letter ++ [mark]
      | none => [point]

/-- Puts a mark into a reversed text, in front of the later classes that it may pass. -/
def placeMark (point : Nat) : List Nat → List Nat
  | [] => [point]
  | other :: before =>
    if 0 < combiningClass point ∧ combiningClass point < combiningClass other then
      other :: placeMark point before
    else point :: other :: before

/-- The text with its marks in the order of their classes. -/
def orderMarks (points : List Nat) : List Nat :=
  (points.foldl (fun text point ↦ placeMark point text) []).reverse

/-- A text that is being joined: what is finished, the letter that marks can still join, and the
marks behind it that did not. All but the letter are reversed. -/
structure Joining where
  finished : List Nat
  letter : Option Nat
  marks : List Nat

namespace Joining

def flush (state : Joining) : List Nat :=
  state.marks ++ state.letter.toList ++ state.finished

/-- A mark of the same or a later class stands between the letter and this code point. -/
def isBlocked (state : Joining) (point : Nat) : Bool :=
  match state.marks with
  | [] => false
  | last :: _ => combiningClass point ≤ combiningClass last

/-- Leaves a code point as it is. -/
def leave (state : Joining) (point : Nat) : Joining :=
  if combiningClass point = 0 then ⟨state.flush, some point, []⟩
  else { state with marks := point :: state.marks }

def step (state : Joining) (point : Nat) : Joining :=
  match state.letter with
  | none => state.leave point
  | some letter =>
    if state.isBlocked point then state.leave point
    else
      match compose? letter point with
      | some joined => { state with letter := some joined }
      | none => state.leave point

end Joining

/-- The text in its composed form. -/
def normalize (points : List Nat) : List Nat :=
  let ordered := orderMarks (points.flatMap (takeApart maxCompositionDepth))
  (ordered.foldl Joining.step ⟨[], none, []⟩).flush.reverse

end WebGateway.Url.Idna
