import WebGateway.Disk.Basic
import WebGateway.Proofs.Entries

/-!
# Trees on a disk

On a disk every directory holds its entries under distinct names, and such a name is neither empty
nor a reference to a directory, and has no slash. Following names stays in such trees
(`Place.IsSound.walk`), and following the names of a path after those of another is following the
first and then the second (`walk_append`). What the operating system tells of a path is an
observation: why it does not resolve it or list the directory there, what reading a file gives, or
the names in a directory.
-/

set_option autoImplicit false
set_option relaxedAutoImplicit false

namespace WebGateway.Disk

/-- A name that a directory can hold an entry under. -/
structure IsEntryName (name : EntryName) : Prop where
  ne_nil : name ≠ []
  ne_here : name ≠ here
  ne_up : name ≠ up
  slash_notMem : slash ∉ name

theorem isEntryName_iff {name : EntryName} :
    IsEntryName name ↔ name ≠ [] ∧ name ≠ here ∧ name ≠ up ∧ slash ∉ name :=
  ⟨fun h ↦ ⟨h.ne_nil, h.ne_here, h.ne_up, h.slash_notMem⟩, fun ⟨hnil, hhere, hup, hslash⟩ ↦
    ⟨hnil, hhere, hup, hslash⟩⟩

instance : DecidablePred IsEntryName :=
  fun _ ↦ decidable_of_iff _ isEntryName_iff.symm

/-- A tree as it lies on a disk, in which every directory has its entries under distinct names. -/
inductive Node.IsTree : Node → Prop
  | file (content : FileContent) : IsTree (.file content)
  | closedDirectory (cause : SystemError) : IsTree (.closedDirectory cause)
  | link (target : List UInt8) : IsTree (.link target)
  | directory {entries : List (EntryName × Node)} (hnodup : (entries.map Prod.fst).Nodup)
      (hname : ∀ entry ∈ entries, IsEntryName entry.1)
      (htree : ∀ entry ∈ entries, IsTree entry.2) : IsTree (.directory entries)

/-- The node and the directories above it are trees on a disk. -/
structure Place.IsSound (place : Place) : Prop where
  isTree : place.node.IsTree
  above : ∀ node ∈ place.above, node.IsTree

/-- What the operating system tells of a path. -/
inductive Observation where
  | refused (cause : SystemError)
  | file (content : FileContent)
  | directory (names : List EntryName)

/-- What is told of a path that was resolved. -/
def Observation.ofResult : Except SystemError (Place × Nat) → Observation
  | .error cause => .refused cause
  | .ok (⟨.file content, _⟩, _) => .file content
  | .ok (⟨.directory entries, _⟩, _) => .directory (entries.map Prod.fst)
  | .ok (⟨.closedDirectory cause, _⟩, _) => .refused cause
  | .ok (⟨.link _, _⟩, _) => .refused .tooManyLinks

def observe (root : Node) (path : List UInt8) : Observation :=
  .ofResult (resolve root path)

variable {root : Node} {place : Place} {budget : Nat} {entries : List (EntryName × Node)}

theorem Observation.exists_of_ofResult_eq_directory {result : Except SystemError (Place × Nat)}
    {listing : List EntryName} (h : ofResult result = .directory listing) :
    ∃ place budget entries, result = .ok (place, budget) ∧ place.node = .directory entries ∧
      listing = entries.map Prod.fst := by
  match result with
  | .ok (⟨.directory entries, above⟩, budget) =>
    exact ⟨⟨.directory entries, above⟩, budget, entries, rfl, rfl, (directory.inj h).symm⟩

/-! ### Entries -/

section Entries

variable {name : EntryName} {node : Node}

theorem Node.IsTree.nodup (h : (Node.directory entries).IsTree) :
    (entries.map Prod.fst).Nodup := by
  cases h with
  | directory hnodup hname htree => exact hnodup

theorem Node.IsTree.isEntryName (h : (Node.directory entries).IsTree)
    (hentry : (name, node) ∈ entries) : IsEntryName name := by
  cases h with
  | directory hnodup hname htree => exact hname _ hentry

theorem Node.IsTree.entry (h : (Node.directory entries).IsTree) (hentry : (name, node) ∈ entries) :
    node.IsTree := by
  cases h with
  | directory hnodup hname htree => exact htree _ hentry

end Entries

/-! ### Places -/

namespace Place.IsSound

theorem parent (h : place.IsSound) : place.parent.IsSound := by
  obtain ⟨node, above⟩ := place
  cases above with
  | nil => exact h
  | cons upper above =>
    exact ⟨h.above upper List.mem_cons_self,
      fun other hother ↦ h.above other (List.mem_cons_of_mem upper hother)⟩

theorem enter {node : Node} (h : place.IsSound) (hnode : node.IsTree) :
    (place.enter node).IsSound := by
  refine ⟨hnode, fun other hother ↦ ?_⟩
  rcases List.mem_cons.mp hother with rfl | hother
  · exact h.isTree
  · exact h.above other hother

theorem ofRoot (hroot : root.IsTree) : (Place.mk root []).IsSound :=
  ⟨hroot, by simp⟩

theorem base (h : place.IsSound) (hroot : root.IsTree) (target : List UInt8) :
    (Disk.base root place target).IsSound := by
  unfold Disk.base
  split_ifs
  · exact ofRoot hroot
  · exact h

theorem entry {name : EntryName} {node : Node} (h : place.IsSound)
    (hplace : place.node = .directory entries) (hentry : (name, node) ∈ entries) : node.IsTree := by
  have hdirectory : (Node.directory entries).IsTree := hplace ▸ h.isTree
  exact hdirectory.entry hentry

/-- Following names from a sound place leads to a sound place. -/
theorem walk {path : List EntryName} {result : Place × Nat} (hroot : root.IsTree)
    (hplace : place.IsSound) (h : Disk.walk root budget place path = .ok result) :
    result.1.IsSound := by
  fun_induction Disk.walk root budget place path with
  | case1 budget place =>
    cases h
    exact hplace
  | case2 budget place name rest entries hnode hidle ih => exact ih hplace h
  | case3 budget place rest entries hnode hidle ih => exact ih hplace.parent h
  | case4 => cases h
  | case5 => cases h
  | case6 place name rest entries hnode hidle hup target hlookup left ih =>
    exact ih (hplace.base hroot target) h
  | case7 budget place name rest entries hnode hidle hup node hlink hlookup ih =>
    exact ih (hplace.enter (hplace.entry hnode (Entries.mem_of_lookup_eq_some hlookup))) h
  | case8 budget place rest cause hnode ih => exact ih hplace h
  | case9 => cases h
  | case10 => cases h

theorem resolve {path : List UInt8} {result : Place × Nat} (hroot : root.IsTree)
    (h : Disk.resolve root path = .ok result) : result.1.IsSound := by
  rw [Disk.resolve] at h
  split_ifs at h
  exact walk hroot (ofRoot hroot) h

end Place.IsSound

/-! ### Walks -/

/-- Names are followed one after the other. -/
theorem walk_append (root : Node) (budget : Nat) (place : Place) (first second : List EntryName) :
    walk root budget place (first ++ second) =
      (walk root budget place first).bind fun goal ↦ walk root goal.2 goal.1 second := by
  fun_induction walk root budget place first with
  | case1 => rfl
  | case2 budget place name rest entries hnode hidle ih =>
    rw [List.cons_append, walk]
    simp only [hnode, hidle, if_true, ih]
  | case3 budget place rest entries hnode hidle ih =>
    rw [List.cons_append, walk]
    simp only [hnode, hidle, if_false, if_true, ih]
  | case4 budget place name rest entries hnode hidle hup hlookup =>
    rw [List.cons_append, walk]
    simp only [hnode, hidle, hup, hlookup, if_false]
    rfl
  | case5 place name rest entries hnode hidle hup target hlookup =>
    rw [List.cons_append, walk]
    simp only [hnode, hidle, hup, hlookup, if_false]
    rfl
  | case6 place name rest entries hnode hidle hup target hlookup left ih =>
    rw [List.cons_append, walk]
    simp only [hnode, hidle, hup, hlookup, if_false, ← List.append_assoc, ih]
  | case7 budget place name rest entries hnode hidle hup node hlink hlookup ih =>
    rw [List.cons_append, walk]
    simp only [hnode, hidle, hup, hlookup, if_false, ih]
  | case8 budget place rest cause hnode ih =>
    rw [List.cons_append, walk]
    simp only [hnode, if_true, ih]
  | case9 budget place name rest cause hnode hname =>
    rw [List.cons_append, walk]
    simp only [hnode, hname, if_false]
    rfl
  | case10 budget place name rest hnode hclosed =>
    rw [List.cons_append, walk]
    split
    · next entries h => exact absurd h (hnode entries)
    · next cause h => exact absurd h (hclosed cause)
    · rfl

/-- The name of an entry of the root leads to that entry, unless it is a link. -/
theorem resolve_entry {entries : List (EntryName × Node)} {name : EntryName} {node : Node}
    (hname : IsEntryName name) (hlookup : entries.lookup name = some node)
    (hnode : ∀ target, node ≠ .link target) :
    resolve (.directory entries) name = .ok (⟨node, [.directory entries]⟩, maxLinks) := by
  have hnames : names name = [name] := List.splitOn_eq_singleton hname.slash_notMem
  have hidle : ¬(name = [] ∨ name = here) := not_or.mpr ⟨hname.ne_nil, hname.ne_here⟩
  rw [resolve, if_neg hname.ne_nil, hnames, walk]
  simp only [hidle, hname.ne_up, hlookup, if_false]
  rw [walk]
  rfl

/-- The file that lies under a name in the root. -/
theorem file_of_lookup {entries : List (EntryName × Node)} {path : String} {content : FileContent}
    (hname : IsEntryName (pathOf path))
    (hlookup : entries.lookup (pathOf path) = some (.file content)) :
    isFile (.directory entries) path = true ∧ readFile (.directory entries) path = content := by
  have hresolve := resolve_entry hname hlookup (by simp)
  simp only [isFile, readFile, hresolve, and_self]

end WebGateway.Disk
