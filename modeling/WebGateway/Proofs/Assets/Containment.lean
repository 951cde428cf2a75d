import Mathlib.Data.List.Basic
import WebGateway.Assets.Bundle
import WebGateway.Proofs.Results

/-!
# Keys stay inside the bundle

A path has a key exactly when none of its raw segments is refused, and then the key is a list of
plain names between single slashes: decoding an escape never makes a separator or a step to the
parent, because a segment is tested after it is decoded and is not decoded again
(`segment?_eq_some_iff`, `splitOn_of_key?`). A bundle therefore serves a file of its own only under
such a key, and answers every refused path with its index document.
-/

set_option autoImplicit false
set_option relaxedAutoImplicit false

namespace WebGateway.Assets

variable {path key : String}

/-- The raw segment decodes to no text, to a step to the parent, or to a text with a separator. -/
def IsRefused (raw : List Char) : Prop :=
  Text.ofUtf8? (Text.Percent.decode raw) = none ∨
    ∃ segment, Text.ofUtf8? (Text.Percent.decode raw) = some segment ∧
      (segment = ['.', '.'] ∨ '/' ∈ segment ∨ '\\' ∈ segment)

/-- The segment is the name of a file or a directory below the one that it is looked for in. -/
structure IsPlainName (segment : List Char) : Prop where
  ne_nil : segment ≠ []
  ne_here : segment ≠ ['.']
  ne_parent : segment ≠ ['.', '.']
  no_slash : '/' ∉ segment
  no_backslash : '\\' ∉ segment

/-- The key is one or more plain names with slashes between them. -/
def IsContained (key : String) : Prop :=
  ∀ segment ∈ key.toList.splitOn '/', IsPlainName segment

/-- The names of a key: the decoded segments that say where to go, and the index document behind
them where there are none or the path is that of a directory. -/
def keyNames (segments : List (List Char)) (path : String) : List (List Char) :=
  let steps := segments.filter fun segment ↦ segment ≠ [] ∧ segment ≠ ['.']
  if steps = [] ∨ path.toList.getLast? = some '/' then steps ++ [indexName.toList] else steps

/-! ### Reading all segments -/

theorem segment?_eq_some_iff {raw segment : List Char} :
    segment? raw = some segment ↔ Text.ofUtf8? (Text.Percent.decode raw) = some segment ∧
      ¬(segment = ['.', '.'] ∨ '/' ∈ segment ∨ '\\' ∈ segment) := by
  rw [segment?]
  cases hdecoded : Text.ofUtf8? (Text.Percent.decode raw) with
  | none => simp
  | some decoded =>
    by_cases hbad : decoded = ['.', '.'] ∨ '/' ∈ decoded ∨ '\\' ∈ decoded
    · simp only [Option.bind_eq_bind, Option.bind_some, if_pos hbad, reduceCtorEq,
        Option.some.injEq, false_iff, not_and, not_not]
      rintro rfl
      exact hbad
    · simp only [Option.bind_eq_bind, Option.bind_some, if_neg hbad, Option.some.injEq]
      exact ⟨fun h ↦ ⟨h, h ▸ hbad⟩, fun h ↦ h.1⟩

theorem segment?_eq_none_iff {raw : List Char} : segment? raw = none ↔ IsRefused raw := by
  rw [segment?, IsRefused]
  cases hdecoded : Text.ofUtf8? (Text.Percent.decode raw) with
  | none => simp
  | some decoded =>
    by_cases hbad : decoded = ['.', '.'] ∨ '/' ∈ decoded ∨ '\\' ∈ decoded
    · simp [hbad]
    · simp [hbad]

/-- A path has no key exactly when one of its raw segments is refused. -/
theorem key?_eq_none_iff : key? path = none ↔ ∃ raw ∈ path.toList.splitOn '/', IsRefused raw := by
  simp only [key?, steps?, Option.map_eq_none_iff, mapM_eq_none_iff, segment?_eq_none_iff]

/-- The key of a path is its decoded segments, none of them refused, without those that go
nowhere. -/
theorem exists_segments_of_key? (h : key? path = some key) :
    ∃ segments, (path.toList.splitOn '/').map segment? = segments.map some ∧
      key = String.ofList (['/'].intercalate (keyNames segments path)) := by
  simp only [key?, steps?, Option.map_map, Option.map_eq_some_iff] at h
  obtain ⟨segments, hsegments, rfl⟩ := h
  refine ⟨segments, map_eq_of_mapM_eq_some hsegments, ?_⟩
  have hsteps : segments.filter isStep =
      segments.filter fun segment ↦ segment ≠ [] ∧ segment ≠ ['.'] :=
    List.filter_congr fun segment _ ↦ (Bool.decide_and _ _).symm
  simp only [Function.comp_apply, hsteps, keyNames, namesDirectory, beq_iff_eq]

/-! ### The names of a key -/

theorem keyNames_ne_nil (segments : List (List Char)) (path : String) :
    keyNames segments path ≠ [] := by
  rw [keyNames]
  split_ifs with hindex
  · exact List.append_ne_nil_of_right_ne_nil _ (List.cons_ne_nil _ _)
  · exact fun hnil ↦ hindex (Or.inl hnil)

theorem isPlainName_indexName : IsPlainName indexName.toList := by
  constructor <;> decide

theorem isPlainName_of_mem_keyNames {segments : List (List Char)}
    (h : ∀ segment ∈ segments, ¬(segment = ['.', '.'] ∨ '/' ∈ segment ∨ '\\' ∈ segment))
    {name : List Char} (hname : name ∈ keyNames segments path) : IsPlainName name := by
  have hsteps : ∀ step ∈ segments.filter fun segment ↦ segment ≠ [] ∧ segment ≠ ['.'],
      IsPlainName step := by
    intro step hstep
    obtain ⟨hmem, hkept⟩ := List.mem_filter.mp hstep
    obtain ⟨hnil, hhere⟩ := of_decide_eq_true hkept
    have hsafe := h step hmem
    simp only [not_or] at hsafe
    exact ⟨hnil, hhere, hsafe.1, hsafe.2.1, hsafe.2.2⟩
  rw [keyNames] at hname
  split_ifs at hname with hindex
  · rcases List.mem_append.mp hname with hstep | hindexName
    · exact hsteps name hstep
    · rw [List.mem_singleton.mp hindexName]
      exact isPlainName_indexName
  · exact hsteps name hname

/-- The segments between the slashes of a key are the names that it was made of. -/
theorem splitOn_of_key? (h : key? path = some key) :
    ∃ segments, (path.toList.splitOn '/').map (fun raw ↦
        Text.ofUtf8? (Text.Percent.decode raw)) = segments.map some ∧
      key.toList = ['/'].intercalate (keyNames segments path) ∧
      key.toList.splitOn '/' = keyNames segments path ∧ IsContained key := by
  obtain ⟨segments, hsegments, rfl⟩ := exists_segments_of_key? h
  have hread : ∀ segment ∈ segments, ∃ raw ∈ path.toList.splitOn '/',
      segment? raw = some segment := by
    intro segment hsegment
    have hmem : some segment ∈ (path.toList.splitOn '/').map segment? :=
      hsegments ▸ List.mem_map_of_mem hsegment
    exact List.mem_map.mp hmem
  have hplain : ∀ name ∈ keyNames segments path, IsPlainName name := by
    refine fun name hname ↦ isPlainName_of_mem_keyNames (fun segment hsegment ↦ ?_) hname
    obtain ⟨raw, -, hraw⟩ := hread segment hsegment
    exact (segment?_eq_some_iff.mp hraw).2
  have hsplit : (['/'].intercalate (keyNames segments path)).splitOn '/' =
      keyNames segments path :=
    List.splitOn_intercalate '/' (fun name hname ↦ (hplain name hname).no_slash)
      (keyNames_ne_nil segments path)
  rw [IsContained, String.toList_ofList, hsplit]
  refine ⟨segments, ?_, rfl, rfl, hplain⟩
  rw [← hsegments]
  refine List.map_congr_left fun raw hraw ↦ ?_
  have hmem : segment? raw ∈ segments.map some := hsegments ▸ List.mem_map_of_mem hraw
  obtain ⟨segment, -, hsegment⟩ := List.mem_map.mp hmem
  rw [← hsegment]
  exact (segment?_eq_some_iff.mp hsegment.symm).1

/-! ### What a contained key looks like -/

theorem nil_mem_splitOn_of_head? {text : List Char} (h : text.head? = some '/') :
    [] ∈ text.splitOn '/' := by
  obtain ⟨rest, rfl⟩ := List.head?_eq_some_iff.mp h
  rw [List.splitOn_cons_eq_if_modifyHead]
  exact List.mem_cons_self

theorem head?_ne_slash_of_isContained (h : IsContained key) : key.toList.head? ≠ some '/' :=
  fun hhead ↦ (h [] (nil_mem_splitOn_of_head? hhead)).ne_nil rfl

theorem getLast?_ne_slash_of_isContained (h : IsContained key) :
    key.toList.getLast? ≠ some '/' := by
  intro hlast
  obtain ⟨before, hbefore⟩ := List.getLast?_eq_some_iff.mp hlast
  have hsplit : key.toList.splitOn '/' = before.splitOn '/' ++ [[]] := by
    rw [hbefore, List.splitOn_append_cons_self, List.splitOn_nil]
  exact (h [] (hsplit ▸ List.mem_append_right _ (List.mem_singleton.mpr rfl))).ne_nil rfl

/-! ### What a bundle serves -/

namespace Bundle

variable {bundle : Bundle}

theorem exists_file_of_resolve_eq_exact {asset : Asset} (h : bundle.resolve path = .exact asset) :
    ∃ key body, key? path = some key ∧ bundle.files.lookup key = some body ∧
      asset = .ofFile key body := by
  rw [resolve] at h
  cases hkey : key? path with
  | none => simp [hkey] at h
  | some key =>
    cases hfile : bundle.files.lookup key with
    | none => simp [hkey, get?, hfile] at h
    | some body =>
      simp only [hkey, get?, hfile, Option.bind_some, Option.map_some,
        Resolution.exact.injEq] at h
      exact ⟨key, body, rfl, hfile, h.symm⟩

theorem resolve_of_key?_eq_none (h : key? path = none) :
    bundle.resolve path = .fallback bundle.indexAsset := by
  rw [resolve, h]
  rfl

end Bundle

/-- A path has no key exactly when a raw segment of it is refused. A key is made of plain names: the
decoded segments that say where to go, with the index document behind them where there are none or
the path ends with a slash. So a bundle serves a file of its own only under such a key, and answers
every path with a refused segment with its index document. -/
theorem key?_isContained (path : String) :
    (key? path = none ↔ ∃ raw ∈ path.toList.splitOn '/', IsRefused raw) ∧
    (∀ key, key? path = some key →
      (IsContained key ∧ key.toList.head? ≠ some '/' ∧ key.toList.getLast? ≠ some '/') ∧
      ∃ segments, (path.toList.splitOn '/').map (fun raw ↦
          Text.ofUtf8? (Text.Percent.decode raw)) = segments.map some ∧
        key.toList = ['/'].intercalate (keyNames segments path) ∧
        key.toList.splitOn '/' = keyNames segments path) ∧
    (∀ (bundle : Bundle) asset, bundle.resolve path = .exact asset →
      ∃ key body, key? path = some key ∧ IsContained key ∧
        bundle.files.lookup key = some body ∧ asset = .ofFile key body) ∧
    (∀ bundle : Bundle, (∃ raw ∈ path.toList.splitOn '/', IsRefused raw) →
      bundle.resolve path = .fallback bundle.indexAsset) := by
  refine ⟨key?_eq_none_iff, fun key hkey ↦ ?_, fun bundle asset hexact ↦ ?_,
    fun bundle hrefused ↦ Bundle.resolve_of_key?_eq_none (key?_eq_none_iff.mpr hrefused)⟩
  · obtain ⟨segments, hsegments, hjoined, hsplit, hcontained⟩ := splitOn_of_key? hkey
    exact ⟨⟨hcontained, head?_ne_slash_of_isContained hcontained,
      getLast?_ne_slash_of_isContained hcontained⟩, segments, hsegments, hjoined, hsplit⟩
  · obtain ⟨key, body, hkey, hfile, rfl⟩ := Bundle.exists_file_of_resolve_eq_exact hexact
    obtain ⟨segments, -, -, -, hcontained⟩ := splitOn_of_key? hkey
    exact ⟨key, body, hkey, hcontained, hfile, rfl⟩

/-- Escapes are decoded once: a doubly escaped dot is part of a name. -/
theorem isContained_of_escaped_dots :
    key? "/docs/%2E//%252e/" = some "docs/%2e/index.html" ∧ IsContained "docs/%2e/index.html" :=
  ⟨by decide +kernel, ((key?_isContained "/docs/%2E//%252e/").2.1 _ (by decide +kernel)).1.1⟩

end WebGateway.Assets
