import WebGateway.Http.Headers
import WebGateway.Proofs.Text.Ascii

/-!
# Field names in any case

A text names a field when it is a token, and it names the same field in every case: the name that
is read is the token in lower case (`HeaderName.parse?_eq_some_iff`).
-/

set_option autoImplicit false
set_option relaxedAutoImplicit false

namespace WebGateway.Http

theorem isTokenChar_toLower (c : Char) : isTokenChar c.toLower = isTokenChar c := by
  refine Text.forall_of_ascii ?ascii ?other c
  case ascii => decide
  case other =>
    intro c hc
    rw [Text.toLower_of_le hc]

theorem isUpper_toLower (c : Char) : c.toLower.isUpper = false := by
  refine Text.forall_of_ascii ?ascii ?other c
  case ascii => decide
  case other =>
    intro c hc
    have hpast : ¬c.val ≤ 'Z'.val := by
      intro hle
      have hnat : c.toNat ≤ 90 := UInt32.le_iff_toNat_le.mp hle
      omega
    rw [Text.toLower_of_le hc]
    exact decide_eq_false fun h ↦ hpast h.2

/-- A text is a token in every case, or in none. -/
theorem isToken_toLower (text : String) :
    isToken (String.ofList (text.toList.map Char.toLower)) = isToken text := by
  have hcase : isTokenChar ∘ Char.toLower = isTokenChar := funext isTokenChar_toLower
  have hempty : (text.toList.map Char.toLower = []) = (text.toList = []) := by
    rw [List.map_eq_nil_iff]
  simp only [isToken, String.toList_ofList, List.all_map, hcase, ne_eq, hempty]

/-- A text is read as the name that it is in lower case, if it is a token. -/
theorem HeaderName.parse?_eq_some_iff {text : String} {name : HeaderName} :
    HeaderName.parse? text = some name ↔
      Http.isToken text = true ∧ text.toList.map Char.toLower = name.text.toList := by
  have hlower : (text.toList.map Char.toLower).all (fun c ↦ !c.isUpper) = true := by
    rw [List.all_map]
    refine List.all_eq_true.mpr fun c _ ↦ ?_
    rw [Function.comp_apply, isUpper_toLower]
    rfl
  simp only [HeaderName.parse?, isToken_toLower, String.toList_ofList, hlower, dite_true]
  constructor
  · intro h
    split at h
    · next htoken =>
      obtain rfl := Option.some.inj h
      exact ⟨htoken, String.toList_ofList.symm⟩
    · cases h
  · rintro ⟨htoken, htext⟩
    rw [dif_pos htoken]
    cases name
    simp only [Option.some.injEq, HeaderName.mk.injEq]
    rw [htext, String.ofList_toList]

end WebGateway.Http
