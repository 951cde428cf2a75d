/-!
# Punycode

A label outside ASCII is written with its ASCII characters first and behind them, after a hyphen,
numbers in a mixed radix that say where each other character is inserted. Every loop ends by a
measure of its own: the number that is still to be written or read, or the digits that are left.
-/

set_option autoImplicit false
set_option relaxedAutoImplicit false

namespace WebGateway.Url.Punycode

/-- Divides the distance until it is small, and counts the steps of 36. -/
def scaleDown (distance steps : Nat) : Nat × Nat :=
  if 455 < distance then scaleDown (distance / 35) (steps + 36) else (distance, steps)
termination_by distance

/-- The bias for the next number after a distance was read or written. -/
def adapt (distance count : Nat) (first : Bool) : Nat :=
  let damped := if first then distance / 700 else distance / 2
  let (small, steps) := scaleDown (damped + damped / count) 0
  steps + 36 * small / (small + 38)

/-- The digit values below which the number ends at a position. -/
def threshold (position bias : Nat) : Nat :=
  if position ≤ bias then 1 else if bias + 26 ≤ position then 26 else position - bias

theorem threshold_pos (position bias : Nat) : 0 < threshold position bias := by
  unfold threshold
  split
  · exact Nat.one_pos
  · split <;> omega

theorem threshold_le (position bias : Nat) : threshold position bias ≤ 26 := by
  unfold threshold
  split
  · omega
  · split <;> omega

/-- The digit of a value below 36. -/
def digit (value : Nat) : Char :=
  if value < 26 then Char.ofNat ('a'.toNat + value) else Char.ofNat ('0'.toNat + (value - 26))

def digitValue? (c : Char) : Option Nat :=
  if 'a' ≤ c ∧ c ≤ 'z' then some (c.toNat - 'a'.toNat)
  else if 'A' ≤ c ∧ c ≤ 'Z' then some (c.toNat - 'A'.toNat)
  else if '0' ≤ c ∧ c ≤ '9' then some (c.toNat - '0'.toNat + 26)
  else none

/-- The digits of a number, the least weighty first. -/
def writeNumber (number position bias : Nat) : List Char :=
  let limit := threshold position bias
  if number < limit then [digit number]
  else
    digit (limit + (number - limit) % (36 - limit)) ::
      writeNumber ((number - limit) / (36 - limit)) (position + 36) bias
termination_by number
decreasing_by
  have hpos := threshold_pos position bias
  have hle := Nat.div_le_self (number - threshold position bias) (36 - threshold position bias)
  omega

/-- Reads a number from the front of the digits; the result is given with the digits behind it. -/
def readNumber (bias number weight position : Nat) : List Char → Option (Nat × List Char)
  | [] => none
  | c :: rest => do
    let value ← digitValue? c
    let number := number + value * weight
    let limit := threshold position bias
    if value < limit then some (number, rest)
    else readNumber bias number (weight * (36 - limit)) (position + 36) rest

theorem length_readNumber_lt {bias : Nat} {digits : List Char} {number weight position : Nat}
    {result : Nat × List Char} (h : readNumber bias number weight position digits = some result) :
    result.2.length < digits.length := by
  induction digits generalizing number weight position with
  | nil => simp [readNumber] at h
  | cons c rest ih =>
    simp only [readNumber, Option.bind_eq_bind, Option.bind_eq_some_iff] at h
    obtain ⟨value, _, h⟩ := h
    split at h
    · cases h
      exact Nat.lt_succ_self _
    · exact Nat.lt_succ_of_lt (ih h)

/-- The state of writing: the code point reached, the distance so far, the bias, the number of
characters written, and the digits. -/
structure Writing where
  reached : Nat
  distance : Nat
  bias : Nat
  written : Nat
  digits : List Char

/-- Passes one character of the label while the code point `point` is inserted. -/
def Writing.pass (basic point : Nat) (state : Writing) (c : Char) : Writing :=
  if c.toNat < point then { state with distance := state.distance + 1 }
  else if c.toNat = point then
    { state with
      digits := state.digits ++ writeNumber state.distance 36 state.bias
      bias := adapt state.distance (state.written + 1) (state.written == basic)
      written := state.written + 1
      distance := 0 }
  else state

/-- Inserts all characters of one code point. -/
def Writing.insert (basic : Nat) (label : List Char) (state : Writing) (point : Nat) : Writing :=
  let moved := { state with
    distance := state.distance + (point - state.reached) * (state.written + 1) }
  let passed := label.foldl (Writing.pass basic point) moved
  { passed with distance := passed.distance + 1, reached := point + 1 }

/-- The written form of a label. -/
def encode (label : List Char) : List Char :=
  let basic := label.filter fun c ↦ c.toNat < 128
  let points := ((label.map Char.toNat).filter (128 ≤ ·)).eraseDups.mergeSort
  let start : Writing := ⟨128, 0, 72, basic.length, []⟩
  let final := points.foldl (Writing.insert basic.length label) start
  (if basic = [] then [] else basic ++ ['-']) ++ final.digits

/-- The character of a code point, if there is one. -/
def charOf? (point : Nat) : Option Char :=
  if h : point.isValidChar then some (Char.ofNatAux point h) else none

/-- Inserts the characters that the digits describe into the text. -/
def insertAll (digits : List Char) (point index bias : Nat) (text : List Char) :
    Option (List Char) :=
  if digits = [] then some text
  else
    match _h : readNumber bias 0 1 36 digits with
    | none => none
    | some (distance, rest) =>
      let count := text.length + 1
      let reached := index + distance
      let nextPoint := point + reached / count
      let place := reached % count
      match charOf? nextPoint with
      | none => none
      | some c =>
        insertAll rest nextPoint (place + 1) (adapt distance count (index == 0))
          (text.take place ++ c :: text.drop place)
termination_by digits.length
decreasing_by exact length_readNumber_lt ‹_›

/-- The part before the last hyphen and the part behind it; a hyphen in front divides nothing. -/
def splitLastHyphen (text : List Char) : List Char × List Char :=
  let reversed := text.reverse
  let behind := (reversed.takeWhile (· ≠ '-')).reverse
  match reversed.dropWhile (· ≠ '-') with
  | [] => ([], behind)
  | [_] => ([], text)
  | _ :: before => (before.reverse, behind)

/-- The label that a written form stands for. -/
def decode (text : List Char) : Option (List Char) :=
  let (basic, digits) := splitLastHyphen text
  if basic.all fun c ↦ c.toNat < 128 then insertAll digits 128 0 72 basic else none

end WebGateway.Url.Punycode
