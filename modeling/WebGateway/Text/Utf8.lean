/-!
# Text as octets

`utf8` writes characters as UTF-8 octets and `ofUtf8?` reads them back; it refuses every octet
sequence that is no well-formed UTF-8. `ofUtf8Lossy` reads any octets and puts U+FFFD in the place
of each longest part that could still have begun a character.
-/

set_option autoImplicit false
set_option relaxedAutoImplicit false

namespace WebGateway.Text

/-- The UTF-8 octets of a character sequence. -/
def utf8 (text : List Char) : List UInt8 :=
  text.flatMap String.utf8EncodeChar

/-- The characters that a well-formed UTF-8 sequence writes. -/
def ofUtf8? (octets : List UInt8) : Option (List Char) :=
  octets.toByteArray.utf8Decode?.map Array.toList

@[simp]
theorem utf8_nil : utf8 [] = [] :=
  rfl

@[simp]
theorem utf8_cons (c : Char) (text : List Char) :
    utf8 (c :: text) = String.utf8EncodeChar c ++ utf8 text :=
  rfl

@[simp]
theorem utf8_append (first second : List Char) :
    utf8 (first ++ second) = utf8 first ++ utf8 second :=
  List.flatMap_append

/-- Reading what was written gives it back. -/
@[simp]
theorem ofUtf8?_utf8 (text : List Char) : ofUtf8? (utf8 text) = some text := by
  have hdecode : (text.flatMap String.utf8EncodeChar).toByteArray.utf8Decode? =
      some text.toArray := List.utf8Decode?_utf8Encode
  simp [ofUtf8?, utf8, hdecode]

/-- Octets are read as the text that is written with them. -/
theorem ofUtf8?_eq_some_iff {octets : List UInt8} {text : List Char} :
    ofUtf8? octets = some text ↔ utf8 text = octets := by
  constructor
  · intro h
    obtain ⟨read, hread, rfl⟩ := Option.map_eq_some_iff.mp h
    have hwritten : (octets.toByteArray.utf8Decode?.get (by simp [hread])).toList.utf8Encode =
        octets.toByteArray := ByteArray.utf8Encode_get_utf8Decode?
    simp only [hread, Option.get_some] at hwritten
    have hoctets : read.toList.utf8Encode.data.toList = octets.toByteArray.data.toList := by
      rw [hwritten]
    simpa [List.utf8Encode, utf8] using hoctets
  · rintro rfl
    exact ofUtf8?_utf8 text

/-- The range of the octet that may follow a lead octet, and the number of octets that follow it
altogether; nothing for an octet that leads no multi-octet character. -/
def continuation? (lead : UInt8) : Option (UInt8 × UInt8 × Nat) :=
  if 0xC2 ≤ lead ∧ lead ≤ 0xDF then some (0x80, 0xBF, 1)
  else if lead = 0xE0 then some (0xA0, 0xBF, 2)
  else if lead = 0xED then some (0x80, 0x9F, 2)
  else if 0xE1 ≤ lead ∧ lead ≤ 0xEF then some (0x80, 0xBF, 2)
  else if lead = 0xF0 then some (0x90, 0xBF, 3)
  else if lead = 0xF4 then some (0x80, 0x8F, 3)
  else if 0xF1 ≤ lead ∧ lead ≤ 0xF3 then some (0x80, 0xBF, 3)
  else none

/-- The octets at the front that continue a character: the first lies in the given range, later
ones in the range of all continuation octets, and there are at most `count` of them. -/
def continuing (low high : UInt8) : Nat → List UInt8 → List UInt8
  | 0, _ => []
  | _ + 1, [] => []
  | count + 1, octet :: rest =>
    if low ≤ octet ∧ octet ≤ high then octet :: continuing 0x80 0xBF count rest else []

/-- Reads any octets: each well-formed character is kept, and each longest beginning of one that
does not come to its end is shown as U+FFFD. -/
def ofUtf8Lossy : List UInt8 → List Char
  | [] => []
  | lead :: rest =>
    if lead < 0x80 then Char.ofNat lead.toNat :: ofUtf8Lossy rest
    else
      match continuation? lead with
      | none => '\uFFFD' :: ofUtf8Lossy rest
      | some (low, high, count) =>
        let tail := continuing low high count rest
        let shown := if tail.length = count then ofUtf8? (lead :: tail) else none
        shown.getD ['\uFFFD'] ++ ofUtf8Lossy (rest.drop tail.length)
termination_by octets => octets.length
decreasing_by all_goals simp; try omega

end WebGateway.Text
