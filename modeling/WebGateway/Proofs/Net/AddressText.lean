import WebGateway.Net.Address
import WebGateway.Proofs.Http.FieldText
import WebGateway.Text.Blank

/-!
# The characters of a printed address

An address is shown in lower-case hexadecimal digits, dots and colons, and never as the empty text
(`IpAddress.isAddressChar_of_mem_toText`, `IpAddress.toList_toText_ne_nil`). Such a text is readable
in a field value, it has no blank that could be trimmed, and it has no comma that could end an
element of a list. Only an IPv6 address has colons, and never more than eight
(`IPv6.count_colon_toText_le`).
-/

set_option autoImplicit false
set_option relaxedAutoImplicit false

namespace WebGateway.Net

/-- The characters of which addresses are made. -/
def addressChars : List Char :=
  ['0', '1', '2', '3', '4', '5', '6', '7', '8', '9', 'a', 'b', 'c', 'd', 'e', 'f', '.', ':']

/-- The character may stand in an address as it is shown. -/
def isAddressChar (c : Char) : Bool :=
  addressChars.contains c

theorem isReadableChar_of_isAddressChar {c : Char} (hc : isAddressChar c = true) :
    Http.isReadableChar c = true := by
  have hall : addressChars.all Http.isReadableChar = true := by decide
  exact List.all_eq_true.mp hall c (List.contains_iff_mem.mp hc)

theorem isBlank_of_isAddressChar {c : Char} (hc : isAddressChar c = true) :
    Text.isBlank c = false := by
  have hall : addressChars.all (fun c ↦ !Text.isBlank c) = true := by decide
  simpa using List.all_eq_true.mp hall c (List.contains_iff_mem.mp hc)

/-! ### Numbers -/

theorem isAddressChar_digitChar {digit : Nat} (h : digit < 16) :
    isAddressChar digit.digitChar = true := by
  revert digit
  decide

theorem exists_digitChar_of_mem_toDigits {base : Nat} (hlow : 1 < base) (number : Nat) {c : Char}
    (hc : c ∈ Nat.toDigits base number) : ∃ digit < base, digit.digitChar = c := by
  induction number using Nat.strongRecOn with
  | ind number ih =>
    rw [Nat.toDigits_eq_if hlow] at hc
    split at hc
    · next hsmall => exact ⟨number, hsmall, (List.mem_singleton.mp hc).symm⟩
    · rcases List.mem_append.mp hc with hfront | hlast
      · exact ih (number / base) (Nat.div_lt_self (by omega) hlow) hfront
      · exact ⟨number % base, Nat.mod_lt _ (by omega), (List.mem_singleton.mp hlast).symm⟩

theorem isAddressChar_of_mem_toDigits {base : Nat} (hlow : 1 < base) (hhigh : base ≤ 16)
    (number : Nat) {c : Char} (hc : c ∈ Nat.toDigits base number) : isAddressChar c = true := by
  obtain ⟨digit, hdigit, rfl⟩ := exists_digitChar_of_mem_toDigits hlow number hc
  exact isAddressChar_digitChar (Nat.lt_of_lt_of_le hdigit hhigh)

theorem colon_notMem_toDigits {base : Nat} (hlow : 1 < base) (hhigh : base ≤ 16) (number : Nat) :
    ':' ∉ Nat.toDigits base number := by
  intro hcolon
  obtain ⟨digit, hdigit, hc⟩ := exists_digitChar_of_mem_toDigits hlow number hcolon
  have hall : ∀ digit < 16, digit.digitChar ≠ ':' := by decide
  exact hall digit (Nat.lt_of_lt_of_le hdigit hhigh) hc

theorem isAddressChar_of_mem_toString {number : Nat} {c : Char}
    (hc : c ∈ (toString number).toList) : isAddressChar c = true := by
  rw [Nat.toString_eq_ofList_toDigits, String.toList_ofList] at hc
  exact isAddressChar_of_mem_toDigits (by decide) (by decide) number hc

/-! ### Addresses -/

theorem IPv4.isAddressChar_of_mem_toText {address : IPv4} {c : Char}
    (hc : c ∈ address.toText.toList) : isAddressChar c = true := by
  rw [IPv4.toText, String.toList_intercalate] at hc
  rcases Http.Method.mem_or_mem_of_mem_intercalate hc with hdot | ⟨word, hword, hmem⟩
  · rw [List.mem_singleton.mp hdot]
    decide
  · obtain ⟨text, htext, rfl⟩ := List.mem_map.mp hword
    obtain ⟨octet, -, rfl⟩ := List.mem_map.mp htext
    exact isAddressChar_of_mem_toString hmem

theorem IPv6.isAddressChar_of_mem_groupsText {groups : List UInt16} {c : Char}
    (hc : c ∈ (groupsText groups).toList) : isAddressChar c = true := by
  rw [groupsText, String.toList_intercalate] at hc
  rcases Http.Method.mem_or_mem_of_mem_intercalate hc with hcolon | ⟨word, hword, hmem⟩
  · rw [List.mem_singleton.mp hcolon]
    decide
  · obtain ⟨text, htext, rfl⟩ := List.mem_map.mp hword
    obtain ⟨group, -, rfl⟩ := List.mem_map.mp htext
    rw [groupText, String.toList_ofList] at hmem
    exact isAddressChar_of_mem_toDigits (by decide) (by decide) _ hmem

theorem IPv6.isAddressChar_of_mem_toText {address : IPv6} {c : Char}
    (hc : c ∈ address.toText.toList) : isAddressChar c = true := by
  simp only [IPv6.toText] at hc
  split at hc
  · exact isAddressChar_of_mem_groupsText hc
  · simp only [String.toList_append, List.mem_append] at hc
    rcases hc with (hfront | hgap) | hback
    · exact isAddressChar_of_mem_groupsText hfront
    · have hcolons : "::".toList.all isAddressChar = true := by decide
      exact List.all_eq_true.mp hcolons c hgap
    · exact isAddressChar_of_mem_groupsText hback

theorem IpAddress.isAddressChar_of_mem_toText {address : IpAddress} {c : Char}
    (hc : c ∈ address.toText.toList) : isAddressChar c = true := by
  cases address with
  | v4 address =>
    rw [IpAddress.toText] at hc
    exact IPv4.isAddressChar_of_mem_toText hc
  | v6 address =>
    rw [IpAddress.toText] at hc
    split at hc
    · rw [String.toList_append, List.mem_append] at hc
      rcases hc with hmapped | haddress
      · have hsigns : "::ffff:".toList.all isAddressChar = true := by decide
        exact List.all_eq_true.mp hsigns c hmapped
      · exact IPv4.isAddressChar_of_mem_toText haddress
    · exact IPv6.isAddressChar_of_mem_toText hc

/-! ### Colons -/

theorem IPv4.colon_notMem_toText (address : IPv4) : ':' ∉ address.toText.toList := by
  intro hcolon
  rw [IPv4.toText, String.toList_intercalate] at hcolon
  rcases Http.Method.mem_or_mem_of_mem_intercalate hcolon with hdot | ⟨word, hword, hmem⟩
  · exact absurd (List.mem_singleton.mp hdot) (by decide)
  · obtain ⟨text, htext, rfl⟩ := List.mem_map.mp hword
    obtain ⟨octet, -, rfl⟩ := List.mem_map.mp htext
    rw [Nat.toString_eq_ofList_toDigits, String.toList_ofList] at hmem
    exact colon_notMem_toDigits (by decide) (by decide) _ hmem

/-- Words are joined with one colon less than there are words. -/
theorem count_colon_intercalate {words : List (List Char)} (h : ∀ word ∈ words, ':' ∉ word) :
    ([':'].intercalate words).count ':' = words.length - 1 := by
  induction words with
  | nil => rfl
  | cons first rest ih =>
    have hfirst : first.count ':' = 0 := List.count_eq_zero.mpr (h first List.mem_cons_self)
    have hrest := ih fun word hword ↦ h word (List.mem_cons_of_mem first hword)
    cases rest with
    | nil => rwa [List.intercalate_singleton]
    | cons second rest =>
      rw [List.intercalate_cons_cons, List.count_append, List.count_append, hfirst, hrest,
        List.count_singleton_self]
      simp only [List.length_cons]
      omega

namespace IPv6

theorem count_colon_groupsText (groups : List UInt16) :
    (groupsText groups).toList.count ':' = groups.length - 1 := by
  have hgroups : ∀ word ∈ (groups.map groupText).map String.toList, ':' ∉ word := by
    intro word hword
    obtain ⟨text, htext, rfl⟩ := List.mem_map.mp hword
    obtain ⟨group, -, rfl⟩ := List.mem_map.mp htext
    rw [groupText, String.toList_ofList]
    exact colon_notMem_toDigits (by decide) (by decide) _
  rw [groupsText, String.toList_intercalate]
  have hcount := count_colon_intercalate hgroups
  rwa [List.length_map, List.length_map] at hcount

/-- The longest run of zero groups begins at a group. -/
theorem longestGap_fst_lt {groups : List UInt16} (h : 0 < groups.length) :
    (longestGap groups).1 < groups.length := by
  refine List.foldlRecOn (motive := fun best : Nat × Nat ↦ best.1 < groups.length) _ _ h ?_
  intro best hbest run hrun
  obtain ⟨start, hstart, rfl⟩ := List.mem_map.mp hrun
  split
  · exact List.mem_range.mp hstart
  · exact hbest

/-- Eight groups have seven colons between them, and the mark of a gap stands for two groups. -/
theorem count_colon_toText_le (address : IPv6) : address.toText.toList.count ':' ≤ 8 := by
  have hlength := address.length_eq
  have hstart : (longestGap address.groups).1 < address.groups.length :=
    longestGap_fst_lt (by omega)
  rw [IPv6.toText]
  dsimp only
  split
  · rw [count_colon_groupsText]
    omega
  · next hgap =>
    have hmark : "::".toList.count ':' = 2 := by decide
    rw [String.toList_append, String.toList_append, List.count_append, List.count_append, hmark,
      count_colon_groupsText, count_colon_groupsText, List.length_take, List.length_drop]
    omega

end IPv6

/-! ### No address is shown as the empty text -/

theorem IPv4.toList_toText_ne_nil (address : IPv4) : address.toText.toList ≠ [] := by
  refine List.ne_nil_of_mem (a := '.') ?_
  rw [IPv4.toText, String.toList_intercalate]
  simp only [List.map_cons, List.intercalate_cons_cons, List.mem_append]
  exact Or.inl (Or.inr List.mem_cons_self)

theorem IPv6.toList_toText_ne_nil (address : IPv6) : address.toText.toList ≠ [] := by
  refine List.ne_nil_of_mem (a := ':') ?_
  simp only [IPv6.toText]
  split
  · match hgroups : address.groups, address.length_eq with
    | first :: second :: rest, _ =>
      rw [groupsText, String.toList_intercalate]
      simp only [List.map_cons, List.intercalate_cons_cons, List.mem_append]
      exact Or.inl (Or.inr List.mem_cons_self)
  · simp only [String.toList_append, List.mem_append]
    exact Or.inl (Or.inr (by decide))

theorem IpAddress.toList_toText_ne_nil (address : IpAddress) : address.toText.toList ≠ [] := by
  cases address with
  | v4 address =>
    rw [IpAddress.toText]
    exact IPv4.toList_toText_ne_nil address
  | v6 address =>
    rw [IpAddress.toText]
    split
    · rw [String.toList_append]
      exact List.append_ne_nil_of_left_ne_nil (by decide) _
    · exact IPv6.toList_toText_ne_nil address

end WebGateway.Net
