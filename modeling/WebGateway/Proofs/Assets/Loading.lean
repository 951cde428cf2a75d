import WebGateway.Proofs.Assets.EntryLists
import WebGateway.Proofs.Assets.Listing

/-!
# Loading is all or nothing

Loading a directory reads everything that can be listed below it, in the order of the listings. One
entry that does not resolve is enough for an error, whatever else there is, and so is one directory
that cannot be listed or one file that cannot be read and is named by texts; otherwise the bundle
has each file that is named by texts under the names joined by slashes, which no other file shares
(`IsJoined.names_eq`). So the order of the listings decides no more than which of several entries
an error is about, and bundles of the same disk answer every path alike
(`load_is_all_or_nothing`).
-/

set_option autoImplicit false
set_option relaxedAutoImplicit false

namespace WebGateway.Assets

open Disk (EntryName IsEntryName Node Observation Place observe)

/-- Below a path lies a file with these names on the way to it. -/
def HoldsFile (root : Node) (base : List UInt8) (names : List EntryName) (body : ByteArray) :
    Prop :=
  IsListed root base names ∧ observe root (pathTo base names) = .file body

/-- The names are texts, and the key joins them by slashes. -/
def IsJoined (names : List EntryName) (key : String) : Prop :=
  ∃ texts : List (List Char), names = texts.map Text.utf8 ∧ key.toList = ['/'].intercalate texts

/-- Below a path lies an entry with these names that does not resolve, a directory that cannot be
listed, or a file named by texts that cannot be read. -/
def HoldsFailure (root : Node) (base : List UInt8) (names : List EntryName) (cause : SystemError) :
    Prop :=
  IsListed root base names ∧
    (observe root (pathTo base names) = .refused cause ∨
      observe root (pathTo base names) = .file (.error cause) ∧ ∃ key, IsJoined names key)

/-- The same bundle up to the order of its files, or two errors of the same kind. -/
inductive LoadsAlike : Except LoadError Bundle → Except LoadError Bundle → Prop
  | unreadable (path otherPath : List UInt8) (cause otherCause : SystemError) :
      LoadsAlike (.error (.unreadable path cause)) (.error (.unreadable otherPath otherCause))
  | noIndex : LoadsAlike (.error .noIndex) (.error .noIndex)
  | ok {bundle other : Bundle} (hfiles : bundle.files.Perm other.files)
      (hresolve : ∀ path, bundle.resolve path = other.resolve path)
      (hrespond : ∀ method path, bundle.respond method path = other.respond method path) :
      LoadsAlike (.ok bundle) (.ok other)

/-! ### Keys -/

section Keys

variable {names others : List EntryName} {key : String}

theorem mapM_ofUtf8?_eq_some_iff {texts : List (List Char)} :
    names.mapM Text.ofUtf8? = some texts ↔ names = texts.map Text.utf8 := by
  constructor
  · intro h
    induction names generalizing texts with
    | nil =>
      obtain rfl : texts = [] := by simpa using h.symm
      rfl
    | cons name rest ih =>
      rw [List.mapM_cons] at h
      obtain ⟨text, htext, h⟩ := Option.bind_eq_some_iff.mp h
      obtain ⟨others, hothers, h⟩ := Option.bind_eq_some_iff.mp h
      cases h
      rw [List.map_cons, ← ih hothers, Text.ofUtf8?_eq_some_iff.mp htext]
  · rintro rfl
    induction texts with
    | nil => rfl
    | cons text rest ih => simp [List.mapM_cons, ih]

theorem keyOfNames?_eq_some_iff : keyOfNames? names = some key ↔ IsJoined names key := by
  rw [keyOfNames?, Option.map_eq_some_iff, IsJoined]
  refine exists_congr fun texts ↦ and_congr mapM_ofUtf8?_eq_some_iff ?_
  rw [← String.toList_inj, String.toList_ofList, eq_comm]

theorem slash_mem_utf8 {text : List Char} (h : '/' ∈ text) : Disk.slash ∈ Text.utf8 text := by
  refine List.mem_flatMap.mpr ⟨'/', h, ?_⟩
  decide

/-- The names of entries are found again in the key that joins them, as they have no slash. -/
theorem IsJoined.names_eq (h : IsJoined names key) (hnames : ∀ name ∈ names, IsEntryName name)
    (hne : names ≠ []) : names = (key.toList.splitOn '/').map Text.utf8 := by
  obtain ⟨texts, rfl, hkey⟩ := h
  have hslash : ∀ text ∈ texts, '/' ∉ text := fun text htext hmem ↦
    (hnames _ (List.mem_map_of_mem htext)).slash_notMem (slash_mem_utf8 hmem)
  have htexts : texts ≠ [] := by simpa using hne
  rw [hkey, List.splitOn_intercalate '/' hslash htexts]

/-- A key that was joined does not begin with a slash. -/
theorem IsJoined.trimKey_eq (h : IsJoined names key) (hnames : ∀ name ∈ names, IsEntryName name)
    (hne : names ≠ []) : Files.trimKey key = key := by
  have hhead : key.toList.head? ≠ some '/' := by
    intro hhead
    have hempty : ([] : EntryName) ∈ names := by
      rw [h.names_eq hnames hne]
      exact List.mem_map_of_mem (nil_mem_splitOn_of_head? hhead)
    exact (hnames [] hempty).ne_nil rfl
  exact Files.trimKey_eq_iff.mpr ⟨hhead, 0, rfl⟩

theorem isJoined_indexName : IsJoined [Disk.pathOf indexName] indexName :=
  ⟨[indexName.toList], rfl, by simp⟩

end Keys

/-! ### Files of a list of entries -/

/-- Where no two entries share a key, all of them stay, each under its key. -/
theorem Files.lookup_ofEntries_iff_mem {entries : List (String × ByteArray)} {key : String}
    {body : ByteArray} (htrim : ∀ entry ∈ entries, trimKey entry.1 = entry.1)
    (hunique : ∀ first ∈ entries, ∀ second ∈ entries, first.1 = second.1 → first = second) :
    (ofEntries entries).lookup key = some body ↔ (key, body) ∈ entries := by
  have hmem : ∀ body, IsLastEntry entries key body → (key, body) ∈ entries := by
    rintro body ⟨before, name, after, rfl, rfl, -⟩
    rw [htrim (name, body) (by simp)]
    simp
  rw [lookup_ofEntries_eq_some_iff]
  refine ⟨hmem body, fun hentry ↦ ?_⟩
  obtain ⟨other, hlast⟩ := exists_isLastEntry_iff.mpr ⟨(key, body), hentry, htrim _ hentry⟩
  have hsame := hunique (key, body) hentry (key, other) (hmem other hlast) rfl
  rwa [(Prod.mk.inj hsame).2]

/-- Files make a bundle of just these files if the index document is among them. -/
theorem Reached.bundle_cases (reached : Reached) :
    (reached.bundle = .error .noIndex ∧
      (Files.ofEntries reached.files).lookup indexName = Option.none) ∨
    ∃ bundle, reached.bundle = .ok bundle ∧ bundle.files = .ofEntries reached.files := by
  rw [Reached.bundle]
  cases hbundle : Bundle.ofEntries? reached.files with
  | some bundle => exact Or.inr ⟨bundle, rfl, Bundle.files_of_ofEntries? hbundle⟩
  | none =>
    refine Or.inl ⟨rfl, ?_⟩
    rw [Files.lookup_ofEntries_eq_none_iff, ← Bundle.ofEntries?_eq_none_iff, hbundle]

/-! ### Loading -/

section Below

variable {root : Node} {path : String} {base : List UInt8} {names others listing : List EntryName}
variable {key : String} {body otherBody : ByteArray}

theorem HoldsFile.isEntryName (htree : root.IsTree) (h : HoldsFile root base names body) :
    ∀ name ∈ names, IsEntryName name :=
  h.1.isEntryName htree

theorem HoldsFile.ne_nil (hroot : observe root base = .directory listing)
    (h : HoldsFile root base names body) : names ≠ [] := by
  rintro rfl
  cases hroot.symm.trans h.2

/-- Two files below a directory have different keys. -/
theorem HoldsFile.eq_of_isJoined (htree : root.IsTree)
    (hroot : observe root base = .directory listing) (h : HoldsFile root base names body)
    (hother : HoldsFile root base others otherBody) (hkey : IsJoined names key)
    (hotherKey : IsJoined others key) :
    names = others ∧ body = otherBody := by
  have hnames : names = others := by
    rw [hkey.names_eq (h.isEntryName htree) (h.ne_nil hroot),
      hotherKey.names_eq (hother.isEntryName htree) (hother.ne_nil hroot)]
  subst hnames
  exact ⟨rfl, Except.ok.inj (Observation.file.inj (h.2.symm.trans hother.2))⟩

theorem mem_seenAt_ok_iff (htree : root.IsTree) :
    ⟨names, .ok (.ok body)⟩ ∈ seenAt root [] (Disk.resolve root base) ↔
      HoldsFile root base names body :=
  mem_seenAt_iff htree

/-- The faults among what is seen are the failures below the path. -/
theorem exists_fault?_eq_some_iff (htree : root.IsTree) {error : LoadError} :
    (∃ sighting ∈ seenAt root [] (Disk.resolve root base), sighting.fault? base = some error) ↔
      ∃ names cause, HoldsFailure root base names cause ∧
        error = .unreadable (pathTo base names) cause := by
  simp only [Sighting.fault?_eq_some_iff, mem_seenAt_iff htree, keyOfNames?_eq_some_iff]
  constructor
  · rintro ⟨⟨names, content⟩, ⟨hlisted, htold⟩, cause, rfl, rfl | ⟨rfl, hkey⟩⟩
    · exact ⟨names, cause, ⟨hlisted, Or.inl htold⟩, rfl⟩
    · exact ⟨names, cause, ⟨hlisted, Or.inr ⟨htold, hkey⟩⟩, rfl⟩
  · rintro ⟨names, cause, ⟨hlisted, htold | ⟨htold, hkey⟩⟩, rfl⟩
    · exact ⟨⟨names, .error cause⟩, ⟨hlisted, htold⟩, cause, rfl, Or.inl rfl⟩
    · exact ⟨⟨names, .ok (.error cause)⟩, ⟨hlisted, htold⟩, cause, rfl, Or.inr ⟨rfl, hkey⟩⟩

theorem load_eq (hroot : observe root (Disk.pathOf path) = .directory listing) :
    load root path =
      (digest (Disk.pathOf path) (seenAt root [] (Disk.resolve root (Disk.pathOf path)))).bind
        Reached.bundle := by
  obtain ⟨⟨node, above⟩, budget, entries, hpath, hplace, -⟩ :=
    Observation.exists_of_ofResult_eq_directory hroot
  subst hplace
  rw [load, reach_eq, seenBelow?, hpath]
  rfl

/-- An entry that does not resolve is enough for an error about such an entry. -/
theorem load_of_failure (htree : root.IsTree)
    (hroot : observe root (Disk.pathOf path) = .directory listing)
    (h : ∃ names cause, HoldsFailure root (Disk.pathOf path) names cause) :
    ∃ names cause, HoldsFailure root (Disk.pathOf path) names cause ∧
      load root path = .error (.unreadable (pathTo (Disk.pathOf path) names) cause) := by
  rw [load_eq hroot, digest]
  split
  · next error hfirst =>
    obtain ⟨names, cause, hfailure, rfl⟩ := (exists_fault?_eq_some_iff htree).mp
      (List.exists_of_findSome?_eq_some hfirst)
    exact ⟨names, cause, hfailure, rfl⟩
  · next hnone =>
    obtain ⟨names, cause, hfailure⟩ := h
    obtain ⟨sighting, hseen, hfault⟩ :=
      (exists_fault?_eq_some_iff htree).mpr ⟨names, cause, hfailure, rfl⟩
    cases (List.findSome?_eq_none_iff.mp hnone sighting hseen).symm.trans hfault

/-- Where all entries resolve, the files that are named by texts are those of the bundle. -/
theorem load_of_no_failure (htree : root.IsTree)
    (hroot : observe root (Disk.pathOf path) = .directory listing)
    (h : ¬∃ names cause, HoldsFailure root (Disk.pathOf path) names cause) :
    ∃ files : Files,
      (∀ key body, files.lookup key = some body ↔
        ∃ names, HoldsFile root (Disk.pathOf path) names body ∧ IsJoined names key) ∧
      ((load root path = .error .noIndex ∧ files.lookup indexName = none) ∨
        ∃ bundle, load root path = .ok bundle ∧ bundle.files = files) := by
  have hpassed : (seenAt root [] (Disk.resolve root (Disk.pathOf path))).findSome?
      (Sighting.fault? (Disk.pathOf path)) = none := by
    rw [List.findSome?_eq_none_iff]
    intro sighting hseen
    cases hfault : sighting.fault? (Disk.pathOf path) with
    | none => rfl
    | some error =>
      obtain ⟨names, cause, hfailure, -⟩ :=
        (exists_fault?_eq_some_iff htree).mp ⟨sighting, hseen, hfault⟩
      exact absurd ⟨names, cause, hfailure⟩ h
  have hload : load root path = (Reached.ofSightings (Disk.pathOf path)
      (seenAt root [] (Disk.resolve root (Disk.pathOf path)))).bundle := by
    rw [load_eq hroot, digest, hpassed]
    rfl
  generalize hreached : Reached.ofSightings (Disk.pathOf path)
    (seenAt root [] (Disk.resolve root (Disk.pathOf path))) = reached at hload
  have hfiles : ∀ key body, (key, body) ∈ reached.files ↔
      ∃ names, HoldsFile root (Disk.pathOf path) names body ∧ IsJoined names key := by
    intro key body
    rw [← hreached, Reached.mem_files_ofSightings_iff]
    exact exists_congr fun names ↦ and_congr (mem_seenAt_ok_iff htree) keyOfNames?_eq_some_iff
  have htrim : ∀ file ∈ reached.files, Files.trimKey file.1 = file.1 := by
    rintro ⟨key, body⟩ hfile
    obtain ⟨names, hheld, hjoined⟩ := (hfiles key body).mp hfile
    exact hjoined.trimKey_eq (hheld.isEntryName htree) (hheld.ne_nil hroot)
  have hunique : ∀ first ∈ reached.files, ∀ second ∈ reached.files, first.1 = second.1 →
      first = second := by
    rintro ⟨key, body⟩ hfirst ⟨_, other⟩ hsecond rfl
    obtain ⟨names, hheld, hjoined⟩ := (hfiles key body).mp hfirst
    obtain ⟨others, hother, hotherJoined⟩ := (hfiles key other).mp hsecond
    rw [(hheld.eq_of_isJoined htree hroot hother hjoined hotherJoined).2]
  refine ⟨.ofEntries reached.files, fun key body ↦ ?_, ?_⟩
  · rw [Files.lookup_ofEntries_iff_mem htrim hunique, hfiles]
  · rw [hload]
    exact reached.bundle_cases

end Below

/-! ### The order of the listings -/

section Order

variable {root other : Node} {path : String} {base : List UInt8} {names listing : List EntryName}

theorem HoldsFile.of_isAlike {body : ByteArray}
    (hsame : ∀ path, (observe root path).IsAlike (observe other path))
    (h : HoldsFile root base names body) : HoldsFile other base names body := by
  have htold := hsame (pathTo base names)
  rw [h.2] at htold
  exact ⟨h.1.of_isAlike hsame, htold.eq_file⟩

theorem HoldsFailure.of_isAlike {cause : SystemError}
    (hsame : ∀ path, (observe root path).IsAlike (observe other path))
    (h : HoldsFailure root base names cause) : HoldsFailure other base names cause := by
  have htold := hsame (pathTo base names)
  refine ⟨h.1.of_isAlike hsame, ?_⟩
  rcases h.2 with hrefused | ⟨hunreadable, hkey⟩
  · rw [hrefused] at htold
    exact Or.inl htold.eq_refused
  · rw [hunreadable] at htold
    exact Or.inr ⟨htold.eq_file, hkey⟩

/-- The order in which directories are listed is not seen in the bundle. -/
theorem loadsAlike_of_isRelisting (htree : root.IsTree)
    (hroot : observe root (Disk.pathOf path) = .directory listing) (h : root.IsRelisting other) :
    LoadsAlike (load root path) (load other path) := by
  have hsame := Disk.isAlike_observe h
  have hback : ∀ path, (observe other path).IsAlike (observe root path) := fun path ↦
    (hsame path).symm
  have hotherTree := h.isTree htree
  have htop := hsame (Disk.pathOf path)
  rw [hroot] at htop
  obtain ⟨otherListing, hotherRoot, -⟩ := htop.exists_directory
  have hfailure : (∃ names cause, HoldsFailure root (Disk.pathOf path) names cause) ↔
      ∃ names cause, HoldsFailure other (Disk.pathOf path) names cause :=
    exists_congr fun names ↦ exists_congr fun cause ↦
      ⟨HoldsFailure.of_isAlike hsame, HoldsFailure.of_isAlike hback⟩
  by_cases hfails : ∃ names cause, HoldsFailure root (Disk.pathOf path) names cause
  · obtain ⟨names, cause, -, hload⟩ := load_of_failure htree hroot hfails
    obtain ⟨others, otherCause, -, hotherLoad⟩ :=
      load_of_failure hotherTree hotherRoot (hfailure.mp hfails)
    rw [hload, hotherLoad]
    exact .unreadable _ _ _ _
  · obtain ⟨files, hfiles, hload⟩ := load_of_no_failure htree hroot hfails
    obtain ⟨otherFiles, hotherFiles, hotherLoad⟩ :=
      load_of_no_failure hotherTree hotherRoot fun hfails' ↦ hfails (hfailure.mpr hfails')
    have hlookup : ∀ key, files.lookup key = otherFiles.lookup key := by
      intro key
      refine Option.ext fun body ↦ ?_
      rw [hfiles, hotherFiles]
      exact exists_congr fun names ↦ and_congr_left'
        ⟨HoldsFile.of_isAlike hsame, HoldsFile.of_isAlike hback⟩
    rcases hload with ⟨hload, hindex⟩ | ⟨bundle, hload, rfl⟩ <;>
      rcases hotherLoad with ⟨hotherLoad, hotherIndex⟩ | ⟨otherBundle, hotherLoad, rfl⟩
    · rw [hload, hotherLoad]
      exact .noIndex
    · rw [hlookup, otherBundle.lookup_index] at hindex
      cases hindex
    · rw [← hlookup, bundle.lookup_index] at hotherIndex
      cases hotherIndex
    · rw [hload, hotherLoad]
      exact .ok (Bundle.perm_files_of_lookup hlookup) (Bundle.resolve_eq_of_lookup hlookup)
        (Bundle.respond_eq_of_lookup hlookup)

end Order

/-! ### All or nothing -/

/-- The index document at the top is the only file that is joined to its key. -/
theorem holdsFile_index_iff {root : Node} {base : List UInt8} {listing : List EntryName}
    {body : ByteArray} (htree : root.IsTree) (hroot : observe root base = .directory listing) :
    (∃ names, HoldsFile root base names body ∧ IsJoined names indexName) ↔
      HoldsFile root base [Disk.pathOf indexName] body := by
  constructor
  · rintro ⟨names, hheld, hjoined⟩
    have hnames : names = [Disk.pathOf indexName] := by
      rw [hjoined.names_eq (hheld.isEntryName htree) (hheld.ne_nil hroot)]
      rfl
    rwa [← hnames]
  · exact fun hheld ↦ ⟨_, hheld, isJoined_indexName⟩

/-- No more than finitely many names can be listed below a directory, so loading it comes to an end.
It fails if one of them does not resolve or cannot be read, with an error about such a one.
Otherwise it gives a bundle just when there is an index document at the top, and the bundle has the
files that are named by texts, each under a key of its own and with its content. Where every
directory is listed in another order, loading fails as well or gives a bundle with the same files
and the same answers. -/
theorem load_is_all_or_nothing (root : Node) (path : String) (htree : root.IsTree)
    (hroot : ∃ listing, observe root (Disk.pathOf path) = .directory listing) :
    {names | IsListed root (Disk.pathOf path) names}.Finite ∧
    ((∃ names cause, HoldsFailure root (Disk.pathOf path) names cause) →
      ∃ names cause, HoldsFailure root (Disk.pathOf path) names cause ∧
        load root path = .error (.unreadable (pathTo (Disk.pathOf path) names) cause)) ∧
    ((¬∃ names cause, HoldsFailure root (Disk.pathOf path) names cause) →
      ((∃ bundle, load root path = .ok bundle) ↔
        ∃ body, HoldsFile root (Disk.pathOf path) [Disk.pathOf indexName] body) ∧
      ((¬∃ body, HoldsFile root (Disk.pathOf path) [Disk.pathOf indexName] body) →
        load root path = .error .noIndex)) ∧
    (∀ bundle, load root path = .ok bundle →
      (bundle.files.map Prod.fst).Nodup ∧
      ∀ key body, (key, body) ∈ bundle.files ↔
        ∃ names, HoldsFile root (Disk.pathOf path) names body ∧ IsJoined names key) ∧
    (∀ names others body otherBody key, HoldsFile root (Disk.pathOf path) names body →
      HoldsFile root (Disk.pathOf path) others otherBody → IsJoined names key →
      IsJoined others key → names = others) ∧
    ∀ other, root.IsRelisting other → LoadsAlike (load root path) (load other path) := by
  obtain ⟨listing, hroot⟩ := hroot
  have hfails := load_of_failure htree hroot
  refine ⟨finite_isListed htree _, hfails, fun hwhole ↦ ?_, fun bundle hbundle ↦ ?_, ?_, ?_⟩
  · obtain ⟨files, hfiles, hload⟩ := load_of_no_failure htree hroot hwhole
    have hindex : ∀ body, files.lookup indexName = some body ↔
        HoldsFile root (Disk.pathOf path) [Disk.pathOf indexName] body := fun body ↦ by
      rw [hfiles, holdsFile_index_iff htree hroot]
    rcases hload with ⟨hload, hnone⟩ | ⟨bundle, hload, rfl⟩
    · have hmissing : ¬∃ body, HoldsFile root (Disk.pathOf path) [Disk.pathOf indexName] body := by
        rintro ⟨body, hheld⟩
        rw [← hindex, hnone] at hheld
        cases hheld
      refine ⟨iff_of_false ?_ hmissing, fun _ ↦ hload⟩
      rintro ⟨bundle, hbundle⟩
      cases hload.symm.trans hbundle
    · have hheld : ∃ body, HoldsFile root (Disk.pathOf path) [Disk.pathOf indexName] body :=
        ⟨bundle.index, (hindex _).mp bundle.lookup_index⟩
      exact ⟨iff_of_true ⟨bundle, hload⟩ hheld, fun hmissing ↦ absurd hheld hmissing⟩
  · have hwhole : ¬∃ names cause, HoldsFailure root (Disk.pathOf path) names cause := by
      intro hfailure
      obtain ⟨names, cause, -, hload⟩ := hfails hfailure
      cases hload.symm.trans hbundle
    refine ⟨bundle.nodup_keys, fun key body ↦ ?_⟩
    obtain ⟨files, hfiles, hload⟩ := load_of_no_failure htree hroot hwhole
    rcases hload with ⟨hload, -⟩ | ⟨loaded, hload, rfl⟩
    · cases hload.symm.trans hbundle
    · cases hload.symm.trans hbundle
      rw [← Entries.lookup_eq_some_iff bundle.nodup_keys, hfiles]
  · intro names others body otherBody key hheld hother hjoined hotherJoined
    exact (hheld.eq_of_isJoined htree hroot hother hjoined hotherJoined).1
  · exact fun other hother ↦ loadsAlike_of_isRelisting htree hroot hother

/-! ### A directory with a link and a name that is no text -/

/-- The entries of a directory in which a link leads to another directory, and a name is no text. -/
def linkedEntries : List (EntryName × Node) :=
  [(Disk.pathOf "latest", .link (Disk.pathOf "docs")), ([0xFF], .file (.ok ⟨#[1]⟩)),
    (Disk.pathOf "index.html", .file (.ok ⟨#[2]⟩)),
    (Disk.pathOf "docs", .directory [(Disk.pathOf "guide", .file (.ok ⟨#[3]⟩))])]

def linkedDisk : Node :=
  .directory [(Disk.pathOf "srv", .directory linkedEntries)]

theorem isTree_linkedDisk : linkedDisk.IsTree := by
  have hdocs : (Node.directory [(Disk.pathOf "guide", .file (.ok ⟨#[3]⟩))]).IsTree :=
    .directory (by decide) (by decide) (by simpa using .file _)
  have hentries : (Node.directory linkedEntries).IsTree := by
    refine .directory (by decide) (by decide) ?_
    simp only [linkedEntries, List.forall_mem_cons]
    exact ⟨.link _, .file _, .file _, hdocs, by simp⟩
  exact .directory (by decide) (by decide) (by simpa using hentries)

theorem resolve_linkedDisk : Disk.resolve linkedDisk (Disk.pathOf "/srv") =
    .ok (⟨.directory linkedEntries, [linkedDisk]⟩, Disk.maxLinks) := by
  have hnames : Disk.names (Disk.pathOf "/srv") = [[], Disk.pathOf "srv"] := by decide
  rw [Disk.resolve, if_neg (by decide), hnames, Disk.walk]
  simp only [linkedDisk, true_or, if_true]
  have hname : IsEntryName (Disk.pathOf "srv") := by decide
  have hlookup : [(Disk.pathOf "srv", Node.directory linkedEntries)].lookup (Disk.pathOf "srv") =
      some (.directory linkedEntries) := rfl
  exact walk_singleton rfl hname hlookup

theorem follow_linkedDisk :
    follow linkedDisk Disk.maxLinks ⟨.directory linkedEntries, [linkedDisk]⟩ (Disk.pathOf "docs") =
      .ok (⟨.directory [(Disk.pathOf "guide", .file (.ok ⟨#[3]⟩))],
        [.directory linkedEntries, linkedDisk]⟩, 39) := by
  have hnames : Disk.names (Disk.pathOf "docs") = [Disk.pathOf "docs"] := by decide
  have hname : IsEntryName (Disk.pathOf "docs") := by decide
  have hlookup : linkedEntries.lookup (Disk.pathOf "docs") =
      some (.directory [(Disk.pathOf "guide", .file (.ok ⟨#[3]⟩))]) := rfl
  rw [Disk.maxLinks, follow, hnames]
  exact walk_singleton rfl hname hlookup

theorem seenAt_linkedDisk : seenAt linkedDisk [] (Disk.resolve linkedDisk (Disk.pathOf "/srv")) =
    [⟨[Disk.pathOf "latest", Disk.pathOf "guide"], .ok (.ok ⟨#[3]⟩)⟩, ⟨[[0xFF]], .ok (.ok ⟨#[1]⟩)⟩,
      ⟨[Disk.pathOf "index.html"], .ok (.ok ⟨#[2]⟩)⟩,
      ⟨[Disk.pathOf "docs", Disk.pathOf "guide"], .ok (.ok ⟨#[3]⟩)⟩] := by
  have hlink := follow_linkedDisk
  rw [resolve_linkedDisk, seenAt]
  generalize (⟨.directory linkedEntries, [linkedDisk]⟩ : Place) = place at hlink ⊢
  simp [linkedEntries, sightings_cons, arrive, hlink, seenAt, sightings, Place.enter]

/-- The file behind the link is found under the name of the link too, and the file whose name is no
text is left out. -/
theorem load_linkedDisk :
    linkedDisk.IsTree ∧ (∃ listing, observe linkedDisk (Disk.pathOf "/srv") = .directory listing) ∧
      ∃ bundle, load linkedDisk "/srv" = .ok bundle ∧
        ("latest/guide", ⟨#[3]⟩) ∈ bundle.files ∧ (∀ key, (key, ⟨#[1]⟩) ∉ bundle.files) ∧
        ∀ other, linkedDisk.IsRelisting other → LoadsAlike (.ok bundle) (load other "/srv") := by
  have hroot : ∃ listing, observe linkedDisk (Disk.pathOf "/srv") = .directory listing :=
    ⟨_, observe_directory resolve_linkedDisk rfl⟩
  obtain ⟨-, -, hwhole, hfiles, -, horder⟩ :=
    load_is_all_or_nothing linkedDisk "/srv" isTree_linkedDisk hroot
  have hnone : ¬∃ names cause, HoldsFailure linkedDisk (Disk.pathOf "/srv") names cause := by
    rintro ⟨names, cause, hfailure⟩
    obtain ⟨sighting, hseen, hfault⟩ :=
      (exists_fault?_eq_some_iff isTree_linkedDisk).mpr ⟨names, cause, hfailure, rfl⟩
    rw [seenAt_linkedDisk] at hseen
    have hread : ∃ body, sighting.content = .ok (.ok body) := by
      simp only [List.mem_cons, List.not_mem_nil, or_false] at hseen
      rcases hseen with rfl | rfl | rfl | rfl <;> exact ⟨_, rfl⟩
    obtain ⟨body, hbody⟩ := hread
    obtain ⟨other, -, hunread⟩ := Sighting.fault?_eq_some_iff.mp hfault
    simp [hbody] at hunread
  have hindex : HoldsFile linkedDisk (Disk.pathOf "/srv") [Disk.pathOf indexName] ⟨#[2]⟩ := by
    rw [← mem_seenAt_ok_iff isTree_linkedDisk, seenAt_linkedDisk]
    simp [indexName]
  have hguide : HoldsFile linkedDisk (Disk.pathOf "/srv")
      [Disk.pathOf "latest", Disk.pathOf "guide"] ⟨#[3]⟩ := by
    rw [← mem_seenAt_ok_iff isTree_linkedDisk, seenAt_linkedDisk]
    simp
  obtain ⟨bundle, hload⟩ := (hwhole hnone).1.mpr ⟨_, hindex⟩
  have hmem := (hfiles bundle hload).2
  refine ⟨isTree_linkedDisk, hroot, bundle, hload, ?_, fun key hkey ↦ ?_, fun other hother ↦ ?_⟩
  · exact (hmem _ _).mpr ⟨_, hguide, ["latest".toList, "guide".toList], rfl, by decide⟩
  · obtain ⟨names, hheld, texts, rfl, -⟩ := (hmem _ _).mp hkey
    rw [← mem_seenAt_ok_iff isTree_linkedDisk, seenAt_linkedDisk] at hheld
    have hnames : texts.map Text.utf8 = [[0xFF]] := by simpa using hheld
    obtain ⟨text, -, htext⟩ := List.map_eq_singleton_iff.mp hnames
    have hnoText : Text.ofUtf8? [0xFF] = none := by decide
    rw [← Text.ofUtf8?_eq_some_iff, hnoText] at htext
    cases htext
  · rw [← hload]
    exact horder other hother

end WebGateway.Assets
