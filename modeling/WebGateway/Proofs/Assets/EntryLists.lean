import Mathlib.Data.List.Dedup
import WebGateway.Proofs.Assets.Sightings
import WebGateway.Proofs.Assets.Spelling

/-!
# Bundles of lists of entries

A list of entries says what a bundle answers: under each key lies the last entry that is made for it
(`lookup_ofEntries_eq_some_iff`), keys being counted without the slashes in front of them, and a
path is answered from the key that it leads to and nothing else (`agreesWith_of_ofEntries?`). The
index document is the entry under its own key, and it stays the answer to all other paths. So the
order of two entries is not seen in any answer, unless they are made for the same key
(`ofEntries?_answers`).
-/

set_option autoImplicit false
set_option relaxedAutoImplicit false

namespace WebGateway.Assets

open Http (Method)

variable {entries : List (String × ByteArray)} {key path : String} {body : ByteArray}

/-- The body is that of the last entry for a key. -/
def IsLastEntry (entries : List (String × ByteArray)) (key : String) (body : ByteArray) : Prop :=
  ∃ before name after, entries = before ++ (name, body) :: after ∧ Files.trimKey name = key ∧
    ∀ entry ∈ after, Files.trimKey entry.1 ≠ key

/-- The path leads to a key that an entry is made for. -/
def LeadsToEntry (entries : List (String × ByteArray)) (path : String) : Prop :=
  ∃ key, key? path = some key ∧ ∃ entry ∈ entries, Files.trimKey entry.1 = key

/-! ### Files of a list of entries -/

namespace Files

theorem lookup_ofEntries_eq_some_iff :
    (ofEntries entries).lookup key = some body ↔ IsLastEntry entries key body := by
  rw [lookup_ofEntries, Option.map_eq_some_iff]
  constructor
  · rintro ⟨⟨name, body⟩, hfound, rfl⟩
    obtain ⟨hkey, after, before, hentries, hafter⟩ := List.find?_eq_some_iff_append.mp hfound
    refine ⟨before.reverse, name, after.reverse, ?_, of_decide_eq_true hkey, fun entry hentry ↦ ?_⟩
    · rw [← List.reverse_reverse entries, hentries]
      simp
    · simpa using hafter entry (List.mem_reverse.mp hentry)
  · rintro ⟨before, name, after, rfl, hkey, hafter⟩
    refine ⟨(name, body), List.find?_eq_some_iff_append.mpr ⟨decide_eq_true hkey, after.reverse,
      before.reverse, by simp, fun entry hentry ↦ ?_⟩, rfl⟩
    simpa using hafter entry (List.mem_reverse.mp hentry)

theorem isSome_lookup_ofEntries_iff :
    ((ofEntries entries).lookup key).isSome = true ↔
      ∃ entry ∈ entries, trimKey entry.1 = key := by
  rw [Option.isSome_iff_ne_none, ne_eq, lookup_ofEntries_eq_none_iff]
  simp

theorem exists_isLastEntry_iff :
    (∃ body, IsLastEntry entries key body) ↔ ∃ entry ∈ entries, trimKey entry.1 = key := by
  simp only [← isSome_lookup_ofEntries_iff, Option.isSome_iff_exists,
    lookup_ofEntries_eq_some_iff]

/-- The keys of the files are those of the entries, each of them once. -/
theorem perm_keys_ofEntries (entries : List (String × ByteArray)) :
    ((ofEntries entries).map Prod.fst).Perm
      (entries.map fun entry ↦ trimKey entry.1).dedup := by
  rw [List.perm_ext_iff_of_nodup (nodup_keys_ofEntries entries) (List.nodup_dedup _)]
  intro key
  rw [← Entries.isSome_lookup_iff, isSome_lookup_ofEntries_iff, List.mem_dedup, List.mem_map]

/-- Of two entries for different keys the one that comes later takes no file from the other. -/
theorem lookup_ofEntries_swap (before after : List (String × ByteArray))
    {first second : String × ByteArray} (h : trimKey first.1 ≠ trimKey second.1) (key : String) :
    (ofEntries (before ++ first :: second :: after)).lookup key =
      (ofEntries (before ++ second :: first :: after)).lookup key := by
  -- Both lists are searched from behind, and at most one of the two entries is for the key.
  simp only [lookup_ofEntries, List.reverse_append, List.reverse_cons, List.append_assoc,
    List.find?_append, List.find?_singleton]
  congr 2
  by_cases hfirst : trimKey first.1 = key
  · have hsecond : ¬trimKey second.1 = key := fun heq ↦ h (hfirst.trans heq.symm)
    simp [hfirst, hsecond]
  · simp [hfirst]

end Files

/-! ### Answers of a bundle -/

namespace Bundle

variable {bundle other : Bundle}

/-- What a bundle answers is said by a list of entries. -/
structure AgreesWith (bundle : Bundle) (entries : List (String × ByteArray)) : Prop where
  size : bundle.size = (entries.map fun entry ↦ Files.trimKey entry.1).dedup.length
  not_isEmpty : bundle.isEmpty = false
  isExact : ∀ path, (∃ asset, bundle.resolve path = .exact asset) ↔ LeadsToEntry entries path
  exact : ∀ path asset, bundle.resolve path = .exact asset ↔
    ∃ key, key? path = some key ∧ IsLastEntry entries key asset.body ∧
      asset.contentType = (MediaType.ofKey key).headerValue
  fallback : ∃ asset, IsLastEntry entries indexName asset.body ∧
    asset.contentType = (MediaType.ofKey indexName).headerValue ∧
    bundle.resolve "/" = .exact asset ∧
    ∀ path, ¬LeadsToEntry entries path → bundle.resolve path = .fallback asset

/-- Two bundles cannot be told apart by what they answer. -/
structure AnswersAlike (bundle other : Bundle) : Prop where
  size : bundle.size = other.size
  isEmpty : bundle.isEmpty = other.isEmpty
  resolve : ∀ path, bundle.resolve path = other.resolve path
  redirect : ∀ path, bundle.redirect? path = other.redirect? path
  respond : ∀ method path, bundle.respond method path = other.respond method path

theorem files_of_ofEntries? (h : ofEntries? entries = some bundle) :
    bundle.files = .ofEntries entries := by
  rw [ofEntries?] at h
  split at h
  · cases h
    rfl
  · cases h

theorem isEmpty_eq_false (bundle : Bundle) : bundle.isEmpty = false := by
  have hindex := Entries.mem_of_lookup_eq_some bundle.lookup_index
  rw [isEmpty, List.isEmpty_eq_false_iff]
  exact List.ne_nil_of_mem hindex

theorem resolve_eq_exact_iff {asset : Asset} : bundle.resolve path = .exact asset ↔
    ∃ key body, key? path = some key ∧ bundle.files.lookup key = some body ∧
      asset = .ofFile key body := by
  constructor
  · exact exists_file_of_resolve_eq_exact
  · rintro ⟨key, body, hkey, hfile, rfl⟩
    exact resolve_of_key? hkey hfile

/-- A path that leads to no file is answered with the index document. -/
theorem resolve_eq_fallback (h : ¬∃ asset, bundle.resolve path = .exact asset) :
    bundle.resolve path = .fallback bundle.indexAsset := by
  cases hresolve : (key? path).bind bundle.get? with
  | none => rw [resolve, hresolve]
  | some asset => exact absurd ⟨asset, by rw [resolve, hresolve]⟩ h

theorem size_of_files (h : bundle.files = .ofEntries entries) :
    bundle.size = (entries.map fun entry ↦ Files.trimKey entry.1).dedup.length := by
  rw [size, h, ← (Files.perm_keys_ofEntries entries).length_eq, List.length_map]

theorem agreesWith_of_ofEntries? (h : ofEntries? entries = some bundle) :
    bundle.AgreesWith entries := by
  have hfiles := files_of_ofEntries? h
  have hexact : ∀ path asset, bundle.resolve path = .exact asset ↔ ∃ key,
      key? path = some key ∧ IsLastEntry entries key asset.body ∧
        asset.contentType = (MediaType.ofKey key).headerValue := by
    intro path asset
    rw [resolve_eq_exact_iff, hfiles]
    simp only [Files.lookup_ofEntries_eq_some_iff]
    constructor
    · rintro ⟨key, body, hkey, hlast, rfl⟩
      exact ⟨key, hkey, hlast, Asset.contentType_ofFile key body⟩
    · rintro ⟨key, hkey, hlast, htype⟩
      exact ⟨key, asset.body, hkey, hlast, Asset.eq_ofFile_iff.mpr ⟨rfl, htype⟩⟩
  have hisExact : ∀ path, (∃ asset, bundle.resolve path = .exact asset) ↔
      LeadsToEntry entries path := by
    intro path
    constructor
    · rintro ⟨asset, hresolve⟩
      obtain ⟨key, hkey, hlast, -⟩ := (hexact path asset).mp hresolve
      exact ⟨key, hkey, Files.exists_isLastEntry_iff.mp ⟨asset.body, hlast⟩⟩
    · rintro ⟨key, hkey, hentry⟩
      obtain ⟨body, hlast⟩ := Files.exists_isLastEntry_iff.mpr hentry
      exact ⟨.ofFile key body, (hexact path _).mpr ⟨key, hkey, hlast, Asset.contentType_ofFile _ _⟩⟩
  have hindex : IsLastEntry entries indexName bundle.index := by
    rw [← Files.lookup_ofEntries_eq_some_iff, ← hfiles]
    exact bundle.lookup_index
  have hroot : key? "/" = some indexName := by decide
  exact ⟨size_of_files hfiles, bundle.isEmpty_eq_false, hisExact, hexact, bundle.indexAsset, hindex,
    Asset.contentType_ofFile _ _, resolve_of_key? hroot bundle.lookup_index,
    fun path hpath ↦ resolve_eq_fallback (mt (hisExact path).mp hpath)⟩

/-! ### Bundles with the same lookups -/

section Lookups

variable (h : ∀ key, bundle.files.lookup key = other.files.lookup key)
include h

theorem resolve_eq_of_lookup (path : String) : bundle.resolve path = other.resolve path := by
  have hget : bundle.get? = other.get? := by
    funext key
    rw [get?, get?, h]
  rw [resolve, resolve, hget, indexAsset, indexAsset, index_congr (h indexName)]

theorem redirect?_eq_of_lookup (path : String) :
    bundle.redirect? path = other.redirect? path := by
  have hhas : bundle.has = other.has := by
    funext key
    rw [has, has, h]
  rw [redirect?, redirect?, hhas]

theorem respond_eq_of_lookup (method : Method) (path : String) :
    bundle.respond method path = other.respond method path := by
  rw [respond, respond, location?, location?, redirect?_eq_of_lookup h, resolve_eq_of_lookup h]

theorem perm_files_of_lookup : bundle.files.Perm other.files := by
  have hnodup : ∀ bundle : Bundle, bundle.files.Nodup := fun bundle ↦
    List.Nodup.of_map Prod.fst bundle.nodup_keys
  rw [List.perm_ext_iff_of_nodup (hnodup bundle) (hnodup other)]
  rintro ⟨key, body⟩
  rw [← Entries.lookup_eq_some_iff bundle.nodup_keys, h,
    Entries.lookup_eq_some_iff other.nodup_keys]

theorem answersAlike_of_lookup : AnswersAlike bundle other where
  size := (perm_files_of_lookup h).length_eq
  isEmpty := by rw [bundle.isEmpty_eq_false, other.isEmpty_eq_false]
  resolve := resolve_eq_of_lookup h
  redirect := redirect?_eq_of_lookup h
  respond := respond_eq_of_lookup h

end Lookups

/-- The order of two entries for different keys is not seen. -/
theorem rel_answersAlike_swap (before after : List (String × ByteArray))
    {first second : String × ByteArray} (h : Files.trimKey first.1 ≠ Files.trimKey second.1) :
    Option.Rel AnswersAlike (ofEntries? (before ++ first :: second :: after))
      (ofEntries? (before ++ second :: first :: after)) := by
  have hlookup := Files.lookup_ofEntries_swap before after h
  have hnone : ofEntries? (before ++ first :: second :: after) = none ↔
      ofEntries? (before ++ second :: first :: after) = none := by
    rw [ofEntries?_eq_none_iff, ofEntries?_eq_none_iff, ← Files.lookup_ofEntries_eq_none_iff,
      ← Files.lookup_ofEntries_eq_none_iff, hlookup]
  cases hbundle : ofEntries? (before ++ first :: second :: after) with
  | none =>
    rw [hnone.mp hbundle]
    exact .none
  | some bundle =>
    cases hother : ofEntries? (before ++ second :: first :: after) with
    | none =>
      rw [hnone.mpr hother] at hbundle
      cases hbundle
    | some other =>
      refine .some (answersAlike_of_lookup fun key ↦ ?_)
      rw [files_of_ofEntries? hbundle, files_of_ofEntries? hother, hlookup]

theorem exists_ofEntries?_iff : (∃ bundle, ofEntries? entries = some bundle) ↔
    ∃ entry ∈ entries, Files.trimKey entry.1 = indexName := by
  rw [← Option.isSome_iff_exists, Option.isSome_iff_ne_none, ne_eq, ofEntries?_eq_none_iff]
  simp

end Bundle

/-- Entries make a bundle exactly when one of them is the index document at the top. The bundle has
as many files as the entries have keys, and answers a path from the last entry for the key that the
path leads to, or else from the last entry of the index document. Two neighbouring entries for
different keys may change places, and nothing is answered differently. -/
theorem ofEntries?_answers (entries : List (String × ByteArray)) :
    ((∃ bundle, Bundle.ofEntries? entries = some bundle) ↔
      ∃ entry ∈ entries, Files.trimKey entry.1 = indexName) ∧
    (∀ bundle, Bundle.ofEntries? entries = some bundle → bundle.AgreesWith entries) ∧
    ∀ before first second after, entries = before ++ first :: second :: after →
      Files.trimKey first.1 ≠ Files.trimKey second.1 →
      Option.Rel Bundle.AnswersAlike (Bundle.ofEntries? entries)
        (Bundle.ofEntries? (before ++ second :: first :: after)) := by
  refine ⟨Bundle.exists_ofEntries?_iff, fun bundle ↦ Bundle.agreesWith_of_ofEntries?, ?_⟩
  rintro before first second after rfl hkeys
  exact Bundle.rel_answersAlike_swap before after hkeys

/-- Entries of two keys, each of which is made for twice. -/
def collidingEntries : List (String × ByteArray) :=
  [("/index.html", ⟨#[1]⟩), ("docs/a.txt", ⟨#[2]⟩), ("//index.html", ⟨#[3]⟩),
    ("/docs/a.txt", ⟨#[4]⟩)]

/-- The later entries are served, and the two in the middle may change places. -/
theorem ofEntries?_collidingEntries :
    ∃ bundle, Bundle.ofEntries? collidingEntries = some bundle ∧ bundle.size = 2 ∧
      bundle.resolve "/docs/./a%2Etxt" = .exact
        { body := ⟨#[4]⟩, contentType := (MediaType.ofKey "docs/a.txt").headerValue } ∧
      bundle.resolve "/docs" = .fallback
        { body := ⟨#[3]⟩, contentType := (MediaType.ofKey indexName).headerValue } ∧
      Option.Rel Bundle.AnswersAlike (some bundle)
        (Bundle.ofEntries? [("/index.html", ⟨#[1]⟩), ("//index.html", ⟨#[3]⟩),
          ("docs/a.txt", ⟨#[2]⟩), ("/docs/a.txt", ⟨#[4]⟩)]) := by
  obtain ⟨hexists, hanswers, hswap⟩ := ofEntries?_answers collidingEntries
  obtain ⟨bundle, hbundle⟩ :=
    hexists.mpr ⟨("/index.html", ⟨#[1]⟩), List.mem_cons_self, by decide⟩
  obtain ⟨hsize, -, -, hexact, asset, -, -, hroot, hfallback⟩ := hanswers bundle hbundle
  have hindex : bundle.resolve "/" = .exact
      { body := ⟨#[3]⟩, contentType := (MediaType.ofKey indexName).headerValue } := by
    refine (hexact _ _).mpr ⟨indexName, by decide, ?_, rfl⟩
    exact ⟨[("/index.html", ⟨#[1]⟩), ("docs/a.txt", ⟨#[2]⟩)], "//index.html",
      [("/docs/a.txt", ⟨#[4]⟩)], rfl, by decide, by decide⟩
  have hdocs : bundle.resolve "/docs/./a%2Etxt" = .exact
      { body := ⟨#[4]⟩, contentType := (MediaType.ofKey "docs/a.txt").headerValue } := by
    refine (hexact _ _).mpr ⟨"docs/a.txt", by decide, ?_, rfl⟩
    exact ⟨[("/index.html", ⟨#[1]⟩), ("docs/a.txt", ⟨#[2]⟩), ("//index.html", ⟨#[3]⟩)],
      "/docs/a.txt", [], rfl, by decide, by simp⟩
  have hmiss : ¬LeadsToEntry collidingEntries "/docs" := by
    rintro ⟨key, hkey, hentry⟩
    have hdirectory : key? "/docs" = some "docs" := by decide
    obtain rfl : "docs" = key := Option.some.inj (hdirectory.symm.trans hkey)
    revert hentry
    decide
  have hasset : asset =
      { body := ⟨#[3]⟩, contentType := (MediaType.ofKey indexName).headerValue } :=
    Resolution.exact.inj (hroot.symm.trans hindex)
  refine ⟨bundle, hbundle, ?_, hdocs, ?_, ?_⟩
  · rw [hsize]
    decide
  · rw [hfallback "/docs" hmiss, hasset]
  · rw [← hbundle]
    exact hswap [("/index.html", ⟨#[1]⟩)] ("docs/a.txt", ⟨#[2]⟩) ("//index.html", ⟨#[3]⟩)
      [("/docs/a.txt", ⟨#[4]⟩)] rfl (by decide)

end WebGateway.Assets
