import WebGateway.Proofs.Http.FieldNames
import WebGateway.Proofs.Relay.EndToEnd

/-!
# Stripping is a filter on names

Which fields are removed is fixed by the section as it came in: the hop-by-hop names and the names
that `IsListed` finds in its readable `Connection` values, in any case and between spaces and tabs
(`mem_connectionNames_iff`). A name that is kept keeps all its values. What is left names nothing
any more, so that stripping it again removes nothing, and a `Connection` value that goes on to name
what is removed or absent anyway changes nothing (`has_endToEnd_iff_not_isListed`).
-/

set_option autoImplicit false
set_option relaxedAutoImplicit false

namespace WebGateway.Relay

open Http (HeaderName HeaderValue Headers)

variable {headers : Headers} {name : HeaderName}

/-- The word is the name in some case. -/
def IsInSomeCase (word : List Char) (name : HeaderName) : Prop :=
  Http.isToken (String.ofList word) = true ∧ word.map Char.toLower = name.text.toList

/-- A readable `Connection` value has the name, in some case, among its comma-separated elements,
spaces and tabs aside. -/
def IsListed (headers : Headers) (name : HeaderName) : Prop :=
  ∃ value ∈ headers.values .connection, ∃ text, value.text? = some text ∧
    ∃ element ∈ text.toList.splitOn ',',
      IsInSomeCase (Text.trimEnds (fun c ↦ c = ' ' ∨ c = '\t') element) name

/-! ### Elements of readable lists -/

theorem mem_of_mem_splitOn {separator c : Char} {text element : List Char}
    (helement : element ∈ text.splitOn separator) (hc : c ∈ element) : c ∈ text := by
  induction text generalizing element with
  | nil =>
    rw [List.splitOn_nil, List.mem_singleton] at helement
    rwa [helement] at hc
  | cons first rest ih =>
    rw [List.splitOn_cons_eq_if_modifyHead] at helement
    split at helement
    · rcases List.mem_cons.mp helement with rfl | helement
      · cases hc
      · exact List.mem_cons_of_mem first (ih helement hc)
    · cases hparts : rest.splitOn separator with
      | nil => exact absurd hparts (List.splitOn_ne_nil separator rest)
      | cons part parts =>
        rw [hparts, List.modifyHead_cons] at helement
        rcases List.mem_cons.mp helement with rfl | helement
        · rcases List.mem_cons.mp hc with rfl | hc
          · exact List.mem_cons_self
          · exact List.mem_cons_of_mem first (ih (hparts ▸ List.mem_cons_self) hc)
        · exact List.mem_cons_of_mem first
            (ih (hparts ▸ List.mem_cons_of_mem part helement) hc)

/-- The blanks of a readable text are its spaces and tabs. -/
theorem isBlank_of_isReadableChar {c : Char} (hc : Http.isReadableChar c = true) :
    Text.isBlank c = decide (c = ' ' ∨ c = '\t') := by
  revert hc
  refine Text.forall_of_ascii ?ascii ?other c
  case ascii => decide
  case other =>
    intro c hlow hc
    have hhigh := Http.toNat_lt_of_isReadableChar hc
    omega

theorem trimEnds_isBlank_of_text? {value : HeaderValue} {text : String}
    (htext : value.text? = some text) {element : List Char}
    (helement : element ∈ text.toList.splitOn ',') :
    Text.trimEnds Text.isBlank element =
      Text.trimEnds (fun c ↦ c = ' ' ∨ c = '\t') element :=
  Text.trimEnds_congr fun _ hc ↦
    isBlank_of_isReadableChar
      (HeaderValue.isReadableChar_of_mem_text? htext (mem_of_mem_splitOn helement hc))

theorem mem_connectionNames_iff : name ∈ connectionNames headers ↔ IsListed headers name := by
  rw [connectionNames, List.mem_flatMap, IsListed]
  refine exists_congr fun value ↦ and_congr_right fun _ ↦ ?_
  cases htext : value.text? with
  | none => simp
  | some text =>
    simp only [Option.some.injEq, exists_eq_left', listElements, List.filterMap_map,
      List.mem_filterMap, Function.comp_apply, HeaderName.parse?_eq_some_iff,
      String.toList_ofList]
    refine exists_congr fun element ↦ and_congr_right fun helement ↦ ?_
    rw [trimEnds_isBlank_of_text? htext helement, IsInSomeCase]

/-! ### Stripped sections -/

theorem values_endToEnd_of_removed (h : name ∈ hopByHop ∨ IsListed headers name) :
    (endToEnd headers).values name = [] := by
  rw [values_endToEnd]
  exact if_pos (h.imp_right mem_connectionNames_iff.mpr)

theorem values_endToEnd_of_kept (hhop : name ∉ hopByHop) (hlisted : ¬IsListed headers name) :
    (endToEnd headers).values name = headers.values name := by
  rw [values_endToEnd]
  exact if_neg (not_or.mpr ⟨hhop, fun hmem ↦ hlisted (mem_connectionNames_iff.mp hmem)⟩)

theorem has_endToEnd_iff : (endToEnd headers).has name = true ↔
    headers.has name = true ∧ name ∉ hopByHop ∧ ¬IsListed headers name := by
  rw [Headers.has_iff_values_ne_nil, Headers.has_iff_values_ne_nil]
  by_cases hremoved : name ∈ hopByHop ∨ IsListed headers name
  · rw [values_endToEnd_of_removed hremoved]
    constructor
    · intro hne
      exact absurd rfl hne
    · rintro ⟨-, hhop, hlisted⟩
      exact absurd hremoved (not_or.mpr ⟨hhop, hlisted⟩)
  · obtain ⟨hhop, hlisted⟩ := not_or.mp hremoved
    rw [values_endToEnd_of_kept hhop hlisted]
    exact (and_iff_left ⟨hhop, hlisted⟩).symm

/-- A stripped section has no `Connection` values that could name anything. -/
theorem connectionNames_endToEnd (headers : Headers) : connectionNames (endToEnd headers) = [] := by
  have hconnection : (endToEnd headers).values .connection = [] :=
    values_endToEnd_of_removed (Or.inl List.mem_cons_self)
  rw [connectionNames, hconnection, List.flatMap_nil]

/-- What is left of a section is left as it is when it is stripped again. -/
theorem endToEnd_endToEnd (headers : Headers) : endToEnd (endToEnd headers) = endToEnd headers := by
  rw [endToEnd, connectionNames_endToEnd, endToEnd]
  simp only [Headers.keep, List.filter_filter]
  congr 1
  refine List.filter_congr fun field _ ↦ ?_
  cases hopByHop.contains field.1 <;> simp

/-- Sections that differ in their `Connection` values alone are stripped alike when these list the
same names among those that are there to be removed. -/
theorem values_endToEnd_congr {other : Headers}
    (hvalues : ∀ name ≠ .connection, other.values name = headers.values name)
    (hlisted : ∀ name ∉ hopByHop, headers.has name = true →
      (IsListed other name ↔ IsListed headers name)) (name : HeaderName) :
    (endToEnd other).values name = (endToEnd headers).values name := by
  by_cases hhop : name ∈ hopByHop
  · rw [values_endToEnd_of_removed (Or.inl hhop), values_endToEnd_of_removed (Or.inl hhop)]
  have hsame : other.values name = headers.values name :=
    hvalues name fun heq ↦ hhop (heq ▸ List.mem_cons_self)
  by_cases hhas : headers.has name = true
  · have hiff := hlisted name hhop hhas
    by_cases hnamed : IsListed headers name
    · rw [values_endToEnd_of_removed (Or.inr hnamed),
        values_endToEnd_of_removed (Or.inr (hiff.mpr hnamed))]
    · rw [values_endToEnd_of_kept hhop hnamed,
        values_endToEnd_of_kept hhop fun hother ↦ hnamed (hiff.mp hother), hsame]
  · have habsent : headers.values name = [] := by
      rwa [Headers.has_iff_values_ne_nil, ne_eq, Decidable.not_not] at hhas
    rw [values_endToEnd, values_endToEnd, hsame, habsent, ite_self, ite_self]

theorem all_isValueOctet_get : (Text.utf8 "GET".toList).all Http.isValueOctet = true := by
  decide

theorem all_isValueOctet_a : (Text.utf8 "a".toList).all Http.isValueOctet = true := by
  decide

/-- A section that lists its identifier in another case, a hop-by-hop name and two elements that are
no names. -/
def listingHeaders : Headers :=
  ⟨[(.connection, .ofAscii "close, X-Request-ID ,, te"),
    (.allow, .ofAscii "GET" all_isValueOctet_get), (.xRequestId, .ofAscii "a" all_isValueOctet_a),
    (.te, .ofAscii "trailers"), (.connection, .ofAscii "@, b c"), (.allow, .ofAscii "HEAD")]⟩

/-- Another `Connection` value, that names a hop-by-hop field and one that is not there. -/
def furtherValue : HeaderValue :=
  .ofAscii "Upgrade, Host"

theorem isListed_furtherValue_iff (hhop : name ∉ hopByHop)
    (hhas : listingHeaders.has name = true) :
    IsListed (listingHeaders.add .connection furtherValue) name ↔
      IsListed listingHeaders name := by
  have hnames : connectionNames (listingHeaders.add .connection furtherValue) =
      connectionNames listingHeaders ++ [.upgrade, .host] := by decide
  have hupgrade : name ≠ .upgrade := by
    rintro rfl
    exact hhop (by decide)
  have hhost : name ≠ .host := by
    rintro rfl
    exact absurd hhas (by decide)
  rw [← mem_connectionNames_iff, ← mem_connectionNames_iff, hnames]
  simp [hupgrade, hhost]

/-- Stripping keeps exactly the names that are not hop-by-hop and not listed, each with all its
values; it keeps what it left; and listing more names that are hop-by-hop or absent removes nothing
else. -/
theorem has_endToEnd_iff_not_isListed (headers : Headers) :
    (∀ name, (endToEnd headers).has name = true ↔
      headers.has name = true ∧ name ∉ hopByHop ∧ ¬IsListed headers name) ∧
    (∀ name, (endToEnd headers).has name = true →
      (endToEnd headers).values name = headers.values name) ∧
    endToEnd (endToEnd headers) = endToEnd headers ∧
    (∀ other : Headers, (∀ name ≠ .connection, other.values name = headers.values name) →
      (∀ name ∉ hopByHop, headers.has name = true →
        (IsListed other name ↔ IsListed headers name)) →
      ∀ name, (endToEnd other).values name = (endToEnd headers).values name) := by
  refine ⟨fun name ↦ has_endToEnd_iff, fun name hkept ↦ ?_, endToEnd_endToEnd headers,
    fun other hvalues hlisted name ↦ values_endToEnd_congr hvalues hlisted name⟩
  obtain ⟨-, hhop, hlisted⟩ := has_endToEnd_iff.mp hkept
  exact values_endToEnd_of_kept hhop hlisted

/-- The identifier is listed and goes, both values of `Allow` stay, and to list more of what goes
anyway changes nothing. -/
theorem has_endToEnd_listingHeaders :
    (endToEnd listingHeaders).has .xRequestId = false ∧
      (endToEnd listingHeaders).values .allow = [.ofAscii "GET", .ofAscii "HEAD"] ∧
      endToEnd (endToEnd listingHeaders) = endToEnd listingHeaders ∧
      ∀ name, (endToEnd (listingHeaders.add .connection furtherValue)).values name =
        (endToEnd listingHeaders).values name := by
  obtain ⟨hkept, hvalues, hagain, hcongr⟩ := has_endToEnd_iff_not_isListed listingHeaders
  refine ⟨?_, ?_, hagain, hcongr _ (fun name hname ↦ ?_) fun name ↦ isListed_furtherValue_iff⟩
  · have hlisted : IsListed listingHeaders .xRequestId :=
      mem_connectionNames_iff.mp (by decide +kernel)
    rw [Bool.eq_false_iff, ne_eq, hkept]
    exact fun h ↦ h.2.2 hlisted
  · have hunlisted : ¬IsListed listingHeaders .allow := fun h ↦
      absurd (mem_connectionNames_iff.mpr h) (by decide +kernel)
    rw [hvalues .allow ((hkept .allow).mpr ⟨by decide +kernel, by decide, hunlisted⟩)]
    decide +kernel
  · rw [Headers.values_add, if_neg (Ne.symm hname), List.append_nil]

end WebGateway.Relay
