import Mathlib.Data.List.Induction
import WebGateway.Assets.Load
import WebGateway.Proofs.Entries
import WebGateway.Proofs.Results

/-!
# What loading a bundle meets

A bundle is loaded by a walk through the directories below its root, and the walk stops at the first
entry that leads nowhere and at the first file with a key that cannot be read. What lies below the
root does not depend on that: it is a list of sightings, files with what reading them gives and
entries with the reason why they lead nowhere, in the order of the listings. The walk fails with the
first sighting that is a fault, and otherwise it has the files of all of them (`gather_eq`,
`reach_eq`). They make a bundle unless none of them is the index document at the top
(`bundle_eq_error_iff`).
-/

set_option autoImplicit false
set_option relaxedAutoImplicit false

namespace WebGateway.Assets

open Disk (EntryName FileContent Node Place)

/-- A file or an entry that leads nowhere, with the names on the way to it from a directory. -/
structure Sighting where
  names : List EntryName
  content : Except SystemError FileContent

/-- Where a link in a directory leads, with the number of links that may still be followed. -/
def follow (root : Node) (budget : Nat) (place : Place) (target : List UInt8) :
    Except SystemError (Place × Nat) :=
  match budget with
  | 0 => .error .tooManyLinks
  | left + 1 => Disk.walk root left (Disk.base root place target) (Disk.names target)

theorem follow_budget_lt {root : Node} {budget : Nat} {place : Place} {target : List UInt8}
    {result : Place × Nat} (h : follow root budget place target = .ok result) :
    result.2 < budget := by
  unfold follow at h
  split at h
  · cases h
  · exact Nat.lt_succ_of_le (Disk.walk_budget_le h)

/-- What lies below a directory that is reached by the names, in the order of the listings. -/
def sightings (root : Node) (budget : Nat) (place : Place) (names : List EntryName) :
    List (EntryName × Node) → List Sighting
  | [] => []
  | (name, .file content) :: rest =>
    ⟨names ++ [name], .ok content⟩ :: sightings root budget place names rest
  | (name, .directory entries) :: rest =>
    sightings root budget (place.enter (.directory entries)) (names ++ [name]) entries ++
      sightings root budget place names rest
  | (name, .closedDirectory cause) :: rest =>
    ⟨names ++ [name], .error cause⟩ :: sightings root budget place names rest
  | (name, .link target) :: rest =>
    (match _h : follow root budget place target with
      | .error cause => [⟨names ++ [name], .error cause⟩]
      | .ok (⟨.file content, _⟩, _) => [⟨names ++ [name], .ok content⟩]
      | .ok (⟨.directory entries, above⟩, left) =>
        sightings root left ⟨.directory entries, above⟩ (names ++ [name]) entries
      | .ok (⟨.closedDirectory cause, _⟩, _) => [⟨names ++ [name], .error cause⟩]
      | .ok (⟨.link _, _⟩, _) => [⟨names ++ [name], .error .tooManyLinks⟩]) ++
      sightings root budget place names rest
termination_by entries => (budget, sizeOf entries)
decreasing_by
  all_goals first
    | exact Prod.Lex.left _ _ (follow_budget_lt ‹_›)
    | (apply Prod.Lex.right
       simp only [List.cons.sizeOf_spec, Prod.mk.sizeOf_spec, Node.directory.sizeOf_spec]
       omega)

/-- What lies below the directory that a path leads to, if it leads to one. -/
def seenBelow? (root : Node) (path : String) : Option (List Sighting) :=
  match Disk.resolve root (Disk.pathOf path) with
  | .error _ => none
  | .ok (place, budget) =>
    match place.node with
    | .directory entries => some (sightings root budget place [] entries)
    | .closedDirectory cause => some [⟨[], .error cause⟩]
    | _ => none

/-- The path to what has the names below a path. -/
def pathTo (base : List UInt8) (names : List EntryName) : List UInt8 :=
  names.foldl joinName base

@[simp]
theorem pathTo_append_singleton (base : List UInt8) (names : List EntryName) (name : EntryName) :
    pathTo base (names ++ [name]) = joinName (pathTo base names) name := by
  simp [pathTo]

namespace Sighting

/-- What a sighting below a path adds to the files, or the error with which it ends the walk. -/
def reached (base : List UInt8) (sighting : Sighting) : Except LoadError Reached :=
  match sighting.content with
  | .ok content => Reached.file (pathTo base sighting.names) sighting.names content
  | .error cause => .error (.unreadable (pathTo base sighting.names) cause)

/-- The error with which a sighting below a path ends the walk. -/
def fault? (base : List UInt8) (sighting : Sighting) : Option LoadError :=
  errorOf? (sighting.reached base)

/-- The key of the file that was seen, if all its names are texts. -/
def key? (sighting : Sighting) : Option String :=
  (keyOfNames? sighting.names).map Files.trimKey

theorem fault?_error (base : List UInt8) (names : List EntryName) (cause : SystemError) :
    fault? base ⟨names, .error cause⟩ = some (.unreadable (pathTo base names) cause) :=
  rfl

/-- A file is no fault if it can be read, or if it has no key and so is not read. -/
theorem fault?_ok (base : List UInt8) (names : List EntryName) (content : FileContent) :
    fault? base ⟨names, .ok content⟩ =
      (keyOfNames? names).bind fun _ ↦
        (errorOf? content).map (.unreadable (pathTo base names)) := by
  show errorOf? (Reached.file (pathTo base names) names content) = _
  rw [Reached.file]
  cases keyOfNames? names with
  | none => rfl
  | some key => cases content <;> rfl

theorem fault?_eq_some_iff {base : List UInt8} {sighting : Sighting} {error : LoadError} :
    fault? base sighting = some error ↔
      ∃ cause, error = .unreadable (pathTo base sighting.names) cause ∧
        (sighting.content = .error cause ∨
          sighting.content = .ok (.error cause) ∧
            ∃ key, keyOfNames? sighting.names = some key) := by
  obtain ⟨names, content⟩ := sighting
  cases content with
  | error cause => simp [fault?_error, eq_comm]
  | ok content =>
    rw [fault?_ok]
    cases keyOfNames? names with
    | none => simp
    | some key => cases content <;> simp [eq_comm]

/-- A sighting that ends the walk, whatever the path is below which it lies. -/
def isFault (sighting : Sighting) : Bool :=
  (sighting.fault? []).isSome

theorem isSome_fault?_eq_isFault (base : List UInt8) (sighting : Sighting) :
    (sighting.fault? base).isSome = sighting.isFault := by
  obtain ⟨names, content⟩ := sighting
  cases content with
  | error cause => rfl
  | ok content =>
    rw [isFault, fault?_ok, fault?_ok]
    cases keyOfNames? names <;> simp

/-- A sighting as far as it is read; a file without a key is not. -/
def asRead (sighting : Sighting) : Sighting :=
  if (keyOfNames? sighting.names).isSome then sighting
  else { sighting with content := sighting.content.map fun _ ↦ .ok .empty }

@[simp]
theorem key?_asRead (sighting : Sighting) : sighting.asRead.key? = sighting.key? := by
  unfold asRead
  split <;> rfl

/-- Whether a sighting ends the walk does not hang on what is not read. -/
@[simp]
theorem fault?_asRead (base : List UInt8) (sighting : Sighting) :
    fault? base sighting.asRead = fault? base sighting := by
  obtain ⟨names, content⟩ := sighting
  unfold asRead
  split
  · rfl
  · next hkey =>
    cases content with
    | error cause => rfl
    | ok content =>
      rw [Option.not_isSome_iff_eq_none] at hkey
      simp only [Except.map, fault?_ok, hkey, Option.bind_none]

/-- A sighting with a key that is no fault is a file that was read. -/
theorem exists_content_of_fault?_eq_none {base : List UInt8} {names : List EntryName}
    {content : Except SystemError FileContent} {key : String}
    (h : fault? base ⟨names, content⟩ = none) (hkey : keyOfNames? names = some key) :
    ∃ body, content = .ok (.ok body) := by
  cases content with
  | error cause => cases h
  | ok content =>
    rw [fault?_ok, hkey, Option.bind_some, Option.map_eq_none_iff, errorOf?_eq_none_iff] at h
    obtain ⟨body, rfl⟩ := h
    exact ⟨body, rfl⟩

end Sighting

/-! ### The walk -/

section Walk

variable {base : List UInt8} {first second : List Sighting}

/-- The files of a list of sightings. -/
def Reached.ofSightings (base : List UInt8) (seen : List Sighting) : Reached :=
  let reached := seen.filterMap fun sighting ↦ (sighting.reached base).toOption
  ⟨reached.flatMap Reached.files, reached.flatMap Reached.skipped⟩

/-- What the walk makes of a list of sightings: the first fault, or the files. -/
def digest (base : List UInt8) (seen : List Sighting) : Except LoadError Reached :=
  match seen.findSome? (Sighting.fault? base) with
  | some error => .error error
  | none => .ok (.ofSightings base seen)

theorem digest_append :
    digest base (first ++ second) =
      (do return (← digest base first).append (← digest base second)) := by
  simp only [digest, List.findSome?_append]
  cases hfirst : first.findSome? (Sighting.fault? base) with
  | some error => rfl
  | none =>
    cases hsecond : second.findSome? (Sighting.fault? base) with
    | some error => rfl
    | none =>
      simp [Reached.ofSightings, Reached.append, bind, Except.bind, pure, Except.pure]

theorem digest_singleton (sighting : Sighting) :
    digest base [sighting] = sighting.reached base := by
  rw [digest, List.findSome?_singleton, Sighting.fault?]
  cases hreached : sighting.reached base with
  | error error => rfl
  | ok reached => simp [Reached.ofSightings, hreached, Except.toOption]

theorem digest_cons {sighting : Sighting} {rest : List Sighting} :
    digest base (sighting :: rest) =
      (do return (← sighting.reached base).append (← digest base rest)) := by
  rw [← List.singleton_append, digest_append, digest_singleton]

/-- The part of a walk that a link leads to. -/
def gatherLink (root : Node) (budget : Nat) (place : Place) (path : List UInt8)
    (names : List EntryName) (target : List UInt8) : Except LoadError Reached :=
  match follow root budget place target with
  | .error cause => .error (.unreadable path cause)
  | .ok (⟨.file content, _⟩, _) => Reached.file path names content
  | .ok (⟨.directory entries, above⟩, left) =>
    gather root left ⟨.directory entries, above⟩ path names entries
  | .ok (⟨.closedDirectory cause, _⟩, _) => .error (.unreadable path cause)
  | .ok (⟨.link _, _⟩, _) => .error (.unreadable path .tooManyLinks)

theorem gather_link (root : Node) (budget : Nat) (place : Place) (path : List UInt8)
    (names : List EntryName) (name : EntryName) (target : List UInt8)
    (rest : List (EntryName × Node)) :
    gather root budget place path names ((name, .link target) :: rest) =
      (do
        let inner ← gatherLink root budget place (joinName path name) (names ++ [name]) target
        let others ← gather root budget place path names rest
        return inner.append others) := by
  cases budget with
  | zero => rw [gather]; rfl
  | succ left =>
    rw [gather, gatherLink]
    simp only [follow]
    split
    · next cause h => simp [h]
    · next goal remaining h =>
      obtain ⟨node, above⟩ := goal
      cases node <;> simp [h]

/-- The walk fails with the first fault among the sightings, and otherwise it has their files. -/
theorem gather_eq (root : Node) (budget : Nat) (place : Place) (names : List EntryName)
    (entries : List (EntryName × Node)) :
    gather root budget place (pathTo base names) names entries =
      digest base (sightings root budget place names entries) := by
  fun_induction sightings root budget place names entries with
  | case1 => simp [gather, digest, Reached.ofSightings, Reached.none]
  | case2 budget place names name content rest ih =>
    rw [gather, ih, digest_cons, ← pathTo_append_singleton]
    rfl
  | case3 budget place names name entries rest ihinner ih =>
    rw [gather, ← pathTo_append_singleton, ihinner, ih, digest_append]
  | case4 budget place names name cause rest ih =>
    rw [gather, digest_cons, Sighting.reached, pathTo_append_singleton]
    rfl
  | case5 budget place names name target rest ihlink ih =>
    rw [gather_link, ← pathTo_append_singleton, ih, digest_append]
    congr 1
    rw [gatherLink]
    split
    · next cause h => rw [h, digest_singleton, Sighting.reached]
    · next content above left h => rw [h, digest_singleton]; rfl
    · next entries above left h => rw [h, ihlink entries above left h]
    · next cause above left h => rw [h, digest_singleton, Sighting.reached]
    · next further above left h => rw [h, digest_singleton, Sighting.reached]

theorem reach_eq (root : Node) (path : String) :
    reach root path =
      match seenBelow? root path with
      | some seen => digest (Disk.pathOf path) seen
      | none => .error (.notADirectory path) := by
  rw [reach, seenBelow?]
  cases Disk.resolve root (Disk.pathOf path) with
  | error cause => rfl
  | ok result =>
    obtain ⟨⟨node, above⟩, budget⟩ := result
    cases node with
    | file content => rfl
    | directory entries =>
      exact gather_eq root budget ⟨.directory entries, above⟩ [] entries
    | closedDirectory cause => rfl
    | link target => rfl

/-- A walk that ends well has met no failure. -/
theorem exists_seenBelow?_of_reach {root : Node} {path : String} {reached : Reached}
    (h : reach root path = .ok reached) :
    ∃ below, seenBelow? root path = some below ∧
      below.findSome? (Sighting.fault? (Disk.pathOf path)) = none ∧
      reached = .ofSightings (Disk.pathOf path) below := by
  rw [reach_eq] at h
  cases hbelow : seenBelow? root path with
  | none => rw [hbelow] at h; cases h
  | some below =>
    simp only [hbelow, digest] at h
    split at h
    · cases h
    · next hpassed =>
      cases h
      exact ⟨below, rfl, hpassed, rfl⟩

end Walk

/-! ### The bundle of the files -/

namespace Files

theorem lookup_store (files : Files) (name key : String) (body : ByteArray) :
    (files.store name body).lookup key = if key = name then some body else files.lookup key := by
  rw [store, Entries.lookup_cons_filter]

/-- Under a key lies the last of the entries that were made for it. -/
theorem lookup_ofEntries (entries : List (String × ByteArray)) (key : String) :
    (ofEntries entries).lookup key =
      (entries.reverse.find? fun entry ↦ trimKey entry.1 = key).map Prod.snd := by
  induction entries using List.reverseRecOn with
  | nil => rfl
  | append_singleton entries entry ih =>
    have hlast : ofEntries (entries ++ [entry]) =
        (ofEntries entries).store (trimKey entry.1) entry.2 := by
      simp [ofEntries]
    rw [hlast, lookup_store, ih, List.reverse_append, List.reverse_singleton,
      List.singleton_append, List.find?_cons]
    by_cases hkey : trimKey entry.1 = key
    · simp [hkey]
    · simp [hkey, Ne.symm hkey]

theorem lookup_ofEntries_eq_none_iff {entries : List (String × ByteArray)} {key : String} :
    (ofEntries entries).lookup key = none ↔ ∀ entry ∈ entries, trimKey entry.1 ≠ key := by
  simp [lookup_ofEntries]

end Files

theorem Bundle.ofEntries?_eq_none_iff {entries : List (String × ByteArray)} :
    Bundle.ofEntries? entries = none ↔ ∀ entry ∈ entries, Files.trimKey entry.1 ≠ indexName := by
  rw [← Files.lookup_ofEntries_eq_none_iff, Bundle.ofEntries?]
  split
  · next index h => simp [h]
  · next h => simp only [h]

namespace Reached

theorem bundle_eq_error_iff {reached : Reached} {error : LoadError} :
    reached.bundle = .error error ↔
      error = .noIndex ∧ ∀ file ∈ reached.files, Files.trimKey file.1 ≠ indexName := by
  rw [← Bundle.ofEntries?_eq_none_iff, bundle]
  cases Bundle.ofEntries? reached.files <;> simp [eq_comm]

/-- A single file is there under its key, if it has one and can be read. -/
theorem mem_files_of_file_iff {path : List UInt8} {names : List EntryName} {content : FileContent}
    {key : String} {body : ByteArray} :
    (∃ reached, file path names content = .ok reached ∧ (key, body) ∈ reached.files) ↔
      content = .ok body ∧ keyOfNames? names = some key := by
  rw [file]
  cases keyOfNames? names with
  | none => simp
  | some joined => cases content <;> simp [eq_comm, and_comm]

/-- The files that were seen, each under the key of its names. -/
theorem mem_files_ofSightings_iff {base : List UInt8} {seen : List Sighting} {key : String}
    {body : ByteArray} : (key, body) ∈ (ofSightings base seen).files ↔
      ∃ names, ⟨names, .ok (.ok body)⟩ ∈ seen ∧ keyOfNames? names = some key := by
  have hreached : ∀ sighting : Sighting,
      (∃ reached, sighting.reached base = .ok reached ∧ (key, body) ∈ reached.files) ↔
        sighting.content = .ok (.ok body) ∧ keyOfNames? sighting.names = some key := by
    rintro ⟨names, content⟩
    cases content with
    | error cause => simp [Sighting.reached]
    | ok content => simp [Sighting.reached, mem_files_of_file_iff]
  simp only [ofSightings, List.mem_flatMap, List.mem_filterMap, toOption_eq_some_iff]
  constructor
  · rintro ⟨reached, ⟨⟨names, content⟩, hseen, hcontent⟩, hfile⟩
    obtain ⟨rfl, hkey⟩ := (hreached _).mp ⟨reached, hcontent, hfile⟩
    exact ⟨names, hseen, hkey⟩
  · rintro ⟨names, hseen, hkey⟩
    obtain ⟨reached, hcontent, hfile⟩ := (hreached ⟨names, .ok (.ok body)⟩).mpr ⟨rfl, hkey⟩
    exact ⟨reached, ⟨_, hseen, hcontent⟩, hfile⟩

/-- The keys of the files that were seen, as long as nothing that was seen is a fault. -/
theorem mem_trimKey_ofSightings_iff {base : List UInt8} {seen : List Sighting} {key : String}
    (hseen : seen.findSome? (Sighting.fault? base) = Option.none) :
    (∃ file ∈ (ofSightings base seen).files, Files.trimKey file.1 = key) ↔
      ∃ sighting ∈ seen, sighting.key? = some key := by
  constructor
  · rintro ⟨⟨joined, body⟩, hfile, hkey⟩
    obtain ⟨names, hmem, hjoined⟩ := mem_files_ofSightings_iff.mp hfile
    exact ⟨_, hmem, Option.map_eq_some_iff.mpr ⟨joined, hjoined, hkey⟩⟩
  · rintro ⟨⟨names, content⟩, hmem, hkey⟩
    obtain ⟨joined, hjoined, htrim⟩ := Option.map_eq_some_iff.mp hkey
    obtain ⟨body, rfl⟩ := Sighting.exists_content_of_fault?_eq_none
      (List.findSome?_eq_none_iff.mp hseen _ hmem) hjoined
    exact ⟨(joined, body), mem_files_ofSightings_iff.mpr ⟨names, hmem, hjoined⟩, htrim⟩

/-- The files make a bundle unless none of them is the index document at the top. -/
theorem bundle_ofSightings_eq_error_iff {base : List UInt8} {seen : List Sighting}
    {error : LoadError} (hseen : seen.findSome? (Sighting.fault? base) = Option.none) :
    (ofSightings base seen).bundle = .error error ↔
      error = .noIndex ∧ ¬∃ sighting ∈ seen, sighting.key? = some indexName := by
  rw [bundle_eq_error_iff, ← mem_trimKey_ofSightings_iff hseen]
  simp only [not_exists, not_and, ne_eq]

end Reached

end WebGateway.Assets
