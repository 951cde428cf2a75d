import WebGateway.Http.Response
import WebGateway.Proofs.Text.Ascii

/-!
# Texts that survive as field values

A text of visible ASCII, spaces and tabs is always a field value, one octet to a character, and
reading the value gives the text back. Characters outside ASCII may be written as well, but are not
read (`isSome_ofText?_iff`). Tokens are readable texts, so the `Allow` field of a refusal can be
split into the methods that it lists.
-/

set_option autoImplicit false
set_option relaxedAutoImplicit false

namespace WebGateway.Http

/-- The character is visible ASCII, a space or a tab. -/
def isReadableChar (c : Char) : Bool :=
  c.toNat == 9 || (32 ≤ c.toNat && c.toNat < 127)

/-- The character is readable or outside ASCII. -/
def isFieldChar (c : Char) : Bool :=
  isReadableChar c || 128 ≤ c.toNat

theorem toNat_lt_of_isReadableChar {c : Char} (hc : isReadableChar c = true) : c.toNat < 127 := by
  simp only [isReadableChar, Bool.or_eq_true, Bool.and_eq_true, beq_iff_eq,
    decide_eq_true_eq] at hc
  omega

theorem toNat_ofNat_of_isReadableChar {c : Char} (hc : isReadableChar c = true) :
    (UInt8.ofNat c.toNat).toNat = c.toNat := by
  rw [UInt8.toNat_ofNat']
  have hlt := toNat_lt_of_isReadableChar hc
  exact Nat.mod_eq_of_lt (by omega)

theorem utf8EncodeChar_of_isReadableChar {c : Char} (hc : isReadableChar c = true) :
    String.utf8EncodeChar c = [UInt8.ofNat c.toNat] := by
  have hlt := toNat_lt_of_isReadableChar hc
  have hsize : c.utf8Size = 1 := by
    rw [Char.utf8Size_eq_one_iff, UInt32.le_iff_toNat_le]
    exact Nat.le_of_lt hlt
  rw [String.utf8EncodeChar_eq_singleton hsize]
  congr 1

theorem isReadableOctet_of_isReadableChar {c : Char} (hc : isReadableChar c = true) :
    isReadableOctet (UInt8.ofNat c.toNat) = true := by
  have hnat := toNat_ofNat_of_isReadableChar hc
  simp only [isReadableChar, Bool.or_eq_true, Bool.and_eq_true, beq_iff_eq,
    decide_eq_true_eq] at hc
  simp only [isReadableOctet, Bool.or_eq_true, Bool.and_eq_true, beq_iff_eq, decide_eq_true_eq]
  rcases hc with htab | ⟨hlow, hhigh⟩
  · left
    rw [htab]
    rfl
  · right
    rw [UInt8.le_iff_toNat_le, UInt8.lt_iff_toNat_lt, hnat]
    exact ⟨hlow, hhigh⟩

/-- A readable text is written with one octet to a character. -/
theorem utf8_of_isReadableChar {text : List Char} (h : ∀ c ∈ text, isReadableChar c = true) :
    Text.utf8 text = text.map fun c ↦ UInt8.ofNat c.toNat := by
  induction text with
  | nil => rfl
  | cons c rest ih =>
    rw [Text.utf8_cons, utf8EncodeChar_of_isReadableChar (h c List.mem_cons_self),
      ih fun other hother ↦ h other (List.mem_cons_of_mem c hother)]
    rfl

namespace HeaderValue

theorem ofOctets?_eq_some {octets : List UInt8} (h : octets.all isValueOctet = true) :
    ofOctets? octets = some ⟨octets, h⟩ :=
  dif_pos h

/-- A readable text is a field value, and the value is read as that text. -/
theorem exists_ofText?_eq_some {text : String}
    (h : ∀ c ∈ text.toList, isReadableChar c = true) :
    ∃ value, ofText? text = some value ∧ value.text? = some text := by
  have hreadable : (Text.utf8 text.toList).all isReadableOctet = true := by
    rw [utf8_of_isReadableChar h, List.all_map]
    exact List.all_eq_true.mpr fun c hc ↦ isReadableOctet_of_isReadableChar (h c hc)
  have hvalue : (Text.utf8 text.toList).all isValueOctet = true :=
    List.all_eq_true.mpr fun octet hoctet ↦
      isValueOctet_of_isReadableOctet (List.all_eq_true.mp hreadable octet hoctet)
  refine ⟨_, ofOctets?_eq_some hvalue, ?_⟩
  have hback : (text.toList.map fun c ↦ UInt8.ofNat c.toNat).map
      (fun octet ↦ Char.ofNat octet.toNat) = text.toList := by
    rw [List.map_map]
    refine (List.map_congr_left fun c hc ↦ ?_).trans (List.map_id _)
    rw [Function.comp_apply, toNat_ofNat_of_isReadableChar (h c hc), Char.ofNat_toNat, id]
  rw [text?, if_pos hreadable]
  simp only [utf8_of_isReadableChar h, hback, String.ofList_toList]

/-- The character that an octet writes is readable where the octet is. -/
theorem isReadableChar_ofNat (octet : UInt8) :
    isReadableChar (Char.ofNat octet.toNat) = isReadableOctet octet := by
  have hall : ∀ number < 256,
      isReadableChar (Char.ofNat number) = isReadableOctet (UInt8.ofNat number) := by
    decide +kernel
  have hoctet := hall octet.toNat (UInt8.toNat_lt octet)
  rwa [UInt8.ofNat_toNat] at hoctet

/-- A value that is read is read as a readable text. -/
theorem isReadableChar_of_mem_text? {value : HeaderValue} {text : String}
    (h : value.text? = some text) {c : Char} (hc : c ∈ text.toList) : isReadableChar c = true := by
  rw [text?] at h
  split at h
  · next hreadable =>
    obtain rfl := Option.some.inj h
    rw [String.toList_ofList] at hc
    obtain ⟨octet, hoctet, rfl⟩ := List.mem_map.mp hc
    rw [isReadableChar_ofNat]
    exact List.all_eq_true.mp hreadable octet hoctet
  · cases h

/-- The octets of a character may stand in a field value where the character may be written. -/
theorem all_isValueOctet_utf8EncodeChar (c : Char) :
    (String.utf8EncodeChar c).all isValueOctet = isFieldChar c := by
  induction c using Text.forall_of_ascii with
  | hascii point hpoint =>
    have hall : ∀ point < 128, (String.utf8EncodeChar (Char.ofNat point)).all isValueOctet =
        isFieldChar (Char.ofNat point) := by
      decide
    exact hall point hpoint
  | hother c hc =>
    have hfield : isFieldChar c = true := by simp [isFieldChar, hc]
    rw [hfield, List.all_eq_true]
    intro octet hoctet
    have hwide := Text.le_of_mem_utf8EncodeChar hc hoctet
    rw [isValueOctet, Bool.or_eq_true, Bool.and_eq_true, decide_eq_true_eq, bne_iff_ne]
    refine Or.inr ⟨UInt8.le_iff_toNat_le.mpr (Nat.le_trans (by decide) hwide), ?_⟩
    rintro rfl
    exact absurd hwide (by decide)

/-- A text is a field value exactly when each of its characters may be written in one. -/
theorem isSome_ofText?_iff {text : String} :
    (ofText? text).isSome ↔ ∀ c ∈ text.toList, isFieldChar c = true := by
  have hoctets : (Text.utf8 text.toList).all isValueOctet = text.toList.all isFieldChar := by
    rw [Text.utf8, List.all_flatMap]
    simp only [all_isValueOctet_utf8EncodeChar]
  rw [ofText?, ofOctets?, ← List.all_eq_true, ← hoctets]
  split
  · next h => simp [h]
  · next h => simp [h]

end HeaderValue

/-! ### The `Allow` field -/

theorem isReadableChar_of_isTokenChar {c : Char} (hc : isTokenChar c = true) :
    isReadableChar c = true := by
  rw [isTokenChar, Bool.or_eq_true, List.contains_iff_mem] at hc
  rcases hc with hword | hsign
  · delta Char.isAlphanum Char.isAlpha Char.isUpper Char.isLower Char.isDigit at hword
    simp only [Bool.or_eq_true, Bool.and_eq_true, decide_eq_true_eq,
      UInt32.le_iff_toNat_le] at hword
    have hbounds : 48 ≤ c.val.toNat ∧ c.val.toNat ≤ 122 := by
      rcases hword with (⟨hlow, hhigh⟩ | ⟨hlow, hhigh⟩) | ⟨hlow, hhigh⟩
      · exact ⟨Nat.le_trans (by decide) hlow, Nat.le_trans hhigh (by decide)⟩
      · exact ⟨Nat.le_trans (by decide) hlow, Nat.le_trans hhigh (by decide)⟩
      · exact ⟨Nat.le_trans (by decide) hlow, Nat.le_trans hhigh (by decide)⟩
    have hnat : c.toNat = c.val.toNat := rfl
    simp only [isReadableChar, Bool.or_eq_true, Bool.and_eq_true, beq_iff_eq, decide_eq_true_eq]
    omega
  · have hsigns : "!#$%&'*+-.^_`|~".toList.all isReadableChar = true := by decide
    exact List.all_eq_true.mp hsigns c hsign

theorem isTokenChar_of_mem {text : String} (h : isToken text = true) {c : Char}
    (hc : c ∈ text.toList) : isTokenChar c = true := by
  rw [isToken, Bool.and_eq_true] at h
  exact List.all_eq_true.mp h.2 c hc

namespace Method

theorem listedWords_append {word : List Char} (h : ',' ∉ word) (rest : List Char) :
    listedWords (word ++ rest) = (listedWords rest).modifyHead (word ++ ·) := by
  induction word with
  | nil => exact (congrFun List.modifyHead_id (listedWords rest)).symm
  | cons c word ih =>
    rw [List.mem_cons, not_or] at h
    have hcomma : ∀ tail : List Char, c = ',' → word ++ rest = ' ' :: tail → False :=
      fun _ heq _ ↦ h.1 heq.symm
    rw [List.cons_append, listedWords, ih h.2, List.modifyHead_modifyHead]
    · rfl
    · exact hcomma

/-- Words without commas are read back from their list. -/
theorem listedWords_intercalate {words : List (List Char)} (hne : words ≠ [])
    (h : ∀ word ∈ words, ',' ∉ word) : listedWords ([',', ' '].intercalate words) = words := by
  induction words with
  | nil => exact absurd rfl hne
  | cons word rest ih =>
    have hword := h word List.mem_cons_self
    cases rest with
    | nil =>
      have hlast := listedWords_append hword []
      simpa [listedWords] using hlast
    | cons next rest =>
      have hrest := ih (List.cons_ne_nil next rest) fun other hother ↦
        h other (List.mem_cons_of_mem word hother)
      rw [List.intercalate_cons_cons, List.append_assoc, listedWords_append hword]
      simp [listedWords, hrest]

theorem mem_or_mem_of_mem_intercalate {separator : List Char} {words : List (List Char)} {c : Char}
    (hc : c ∈ separator.intercalate words) : c ∈ separator ∨ ∃ word ∈ words, c ∈ word := by
  induction words with
  | nil => simp at hc
  | cons word rest ih =>
    cases rest with
    | nil =>
      rw [List.intercalate_singleton] at hc
      exact Or.inr ⟨word, List.mem_cons_self, hc⟩
    | cons next rest =>
      rw [List.intercalate_cons_cons, List.mem_append, List.mem_append] at hc
      rcases hc with (hword | hseparator) | hrest
      · exact Or.inr ⟨word, List.mem_cons_self, hword⟩
      · exact Or.inl hseparator
      · rcases ih hrest with hseparator | ⟨other, hother, hmem⟩
        · exact Or.inl hseparator
        · exact Or.inr ⟨other, List.mem_cons_of_mem word hother, hmem⟩

theorem toList_allowText (methods : List Method) :
    (allowText methods).toList = [',', ' '].intercalate (methods.map fun method ↦
      method.text.toList) := by
  rw [allowText, String.toList_intercalate, List.map_map]
  rfl

theorem isReadableChar_of_mem_allowText {methods : List Method} {c : Char}
    (hc : c ∈ (allowText methods).toList) : isReadableChar c = true := by
  rw [toList_allowText] at hc
  rcases mem_or_mem_of_mem_intercalate hc with hseparator | ⟨word, hword, hmem⟩
  · have hsigns : [',', ' '].all isReadableChar = true := by decide
    exact List.all_eq_true.mp hsigns c hseparator
  · obtain ⟨method, -, rfl⟩ := List.mem_map.mp hword
    exact isReadableChar_of_isTokenChar (isTokenChar_of_mem method.isToken hmem)

/-- The list of methods in the `Allow` field is read back. -/
theorem listedWords_allowText {methods : List Method} (hne : methods ≠ []) :
    listedWords (allowText methods).toList = methods.map fun method ↦ method.text.toList := by
  rw [toList_allowText]
  refine listedWords_intercalate (fun hnil ↦ hne (List.map_eq_nil_iff.mp hnil)) fun word hword ↦ ?_
  obtain ⟨method, -, rfl⟩ := List.mem_map.mp hword
  intro hcomma
  exact absurd (isTokenChar_of_mem method.isToken hcomma) (by decide)

end Method

/-- A refusal has one `Allow` value, a text that lists the accepted methods. -/
theorem Response.exists_allow_methodNotAllowed (allowed : List Method) :
    ∃ value, (methodNotAllowed allowed).headers.values .allow = [value] ∧
      value.text? = some (Method.allowText allowed) := by
  have hreadable : ∀ c ∈ (Method.allowText allowed).toList, isReadableChar c = true :=
    fun _ hc ↦ Method.isReadableChar_of_mem_allowText hc
  obtain ⟨value, hvalue, htext⟩ := HeaderValue.exists_ofText?_eq_some hreadable
  refine ⟨value, ?_, htext⟩
  simp only [methodNotAllowed, hvalue, Headers.values_set, if_true]

end WebGateway.Http
