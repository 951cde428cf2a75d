import Mathlib.Data.List.Forall2
import WebGateway.Proofs.Disk.Trees

/-!
# Directories that are listed in another order

The order in which a directory lists its entries is no part of the tree. Two disks that differ in
nothing else resolve every path alike: following names only asks for the entry under a name, so step
by step it leads to places that differ in nothing else either (`Place.IsRelisting.walk`). What is
told of a path is the same then, up to the order of the names in a directory (`isAlike_observe`).
-/

set_option autoImplicit false
set_option relaxedAutoImplicit false

namespace WebGateway.Disk

/-- The same tree, with the entries of each of its directories in any order. -/
inductive Node.IsRelisting : Node → Node → Prop
  | file (content : FileContent) : IsRelisting (.file content) (.file content)
  | closedDirectory (cause : SystemError) :
      IsRelisting (.closedDirectory cause) (.closedDirectory cause)
  | link (target : List UInt8) : IsRelisting (.link target) (.link target)
  | directory {entries others : List (EntryName × Node)}
      (hnames : (entries.map Prod.fst).Perm (others.map Prod.fst))
      (hnodes : ∀ entry ∈ entries, ∀ other ∈ others, entry.1 = other.1 →
        IsRelisting entry.2 other.2) : IsRelisting (.directory entries) (.directory others)

structure Place.IsRelisting (place other : Place) : Prop where
  node : place.node.IsRelisting other.node
  above : List.Forall₂ Node.IsRelisting place.above other.above

/-- Two walks that fail alike or lead to the same place. -/
inductive IsSameWalk : Except SystemError (Place × Nat) → Except SystemError (Place × Nat) → Prop
  | refused (cause : SystemError) : IsSameWalk (.error cause) (.error cause)
  | leads {place other : Place} (h : place.IsRelisting other) (budget : Nat) :
      IsSameWalk (.ok (place, budget)) (.ok (other, budget))

/-- The same is told of a path, up to the order in which names are listed. -/
inductive Observation.IsAlike : Observation → Observation → Prop
  | refused (cause : SystemError) : IsAlike (.refused cause) (.refused cause)
  | file (content : FileContent) : IsAlike (.file content) (.file content)
  | directory {names others : List EntryName} (h : names.Perm others) :
      IsAlike (.directory names) (.directory others)

namespace Observation.IsAlike

variable {told other : Observation}

theorem symm (h : told.IsAlike other) : other.IsAlike told := by
  cases h with
  | refused cause => exact .refused cause
  | file content => exact .file content
  | directory h => exact .directory h.symm

theorem eq_refused {cause : SystemError} (h : IsAlike (.refused cause) other) :
    other = .refused cause := by
  cases h
  rfl

theorem eq_file {content : FileContent} (h : IsAlike (.file content) other) :
    other = .file content := by
  cases h
  rfl

theorem exists_directory {names : List EntryName} (h : IsAlike (.directory names) other) :
    ∃ others, other = .directory others ∧ names.Perm others := by
  cases h with
  | directory hperm => exact ⟨_, rfl, hperm⟩

end Observation.IsAlike

/-! ### Nodes -/

namespace Node.IsRelisting

variable {node other : Node} {entries others : List (EntryName × Node)}

theorem names (h : (Node.directory entries).IsRelisting (.directory others)) :
    (entries.map Prod.fst).Perm (others.map Prod.fst) := by
  cases h with
  | directory hnames hnodes => exact hnames

theorem nodes {name : EntryName} {first second : Node}
    (h : (Node.directory entries).IsRelisting (.directory others))
    (hfirst : (name, first) ∈ entries) (hsecond : (name, second) ∈ others) :
    first.IsRelisting second := by
  cases h with
  | directory hnames hnodes => exact hnodes _ hfirst _ hsecond rfl

theorem exists_others (h : (Node.directory entries).IsRelisting other) :
    ∃ others, other = .directory others := by
  cases h with
  | directory hnames hnodes => exact ⟨_, rfl⟩

theorem exists_entries (h : node.IsRelisting (.directory others)) :
    ∃ entries, node = .directory entries := by
  cases h with
  | directory hnames hnodes => exact ⟨_, rfl⟩

theorem closedDirectory_eq {cause : SystemError}
    (h : (Node.closedDirectory cause).IsRelisting other) : other = .closedDirectory cause := by
  cases h
  rfl

theorem eq_closedDirectory {cause : SystemError} (h : node.IsRelisting (.closedDirectory cause)) :
    node = .closedDirectory cause := by
  cases h
  rfl

/-- Under each name lies the same. -/
theorem lookup (h : (Node.directory entries).IsRelisting (.directory others)) (name : EntryName) :
    Option.Rel IsRelisting (entries.lookup name) (others.lookup name) := by
  have hfound : (entries.lookup name).isSome ↔ (others.lookup name).isSome := by
    rw [Entries.isSome_lookup_iff, Entries.isSome_lookup_iff, h.names.mem_iff]
  cases hfirst : entries.lookup name with
  | none =>
    cases hsecond : others.lookup name with
    | none => exact .none
    | some second => simp [hfirst, hsecond] at hfound
  | some first =>
    cases hsecond : others.lookup name with
    | none => simp [hfirst, hsecond] at hfound
    | some second =>
      exact .some (h.nodes (Entries.mem_of_lookup_eq_some hfirst)
        (Entries.mem_of_lookup_eq_some hsecond))

theorem lookup_link {name : EntryName} {target : List UInt8}
    (h : (Node.directory entries).IsRelisting (.directory others))
    (hlookup : entries.lookup name = some (.link target)) :
    others.lookup name = some (.link target) := by
  have hsame := h.lookup name
  rw [hlookup] at hsame
  generalize others.lookup name = found at hsame ⊢
  cases hsame with
  | some hnode =>
    cases hnode
    rfl

theorem isTree (h : node.IsRelisting other) (hnode : node.IsTree) : other.IsTree := by
  induction h with
  | file content => exact .file content
  | closedDirectory cause => exact .closedDirectory cause
  | link target => exact .link target
  | @directory entries others hnames hnodes ih =>
    have hentry : ∀ second ∈ others, ∃ first ∈ entries, first.1 = second.1 := fun second hsecond ↦
      List.mem_map.mp (hnames.mem_iff.mpr (List.mem_map_of_mem hsecond))
    refine .directory (hnames.nodup_iff.mp hnode.nodup) ?_ ?_
    · intro second hsecond
      obtain ⟨first, hfirst, heq⟩ := hentry second hsecond
      exact heq ▸ hnode.isEntryName hfirst
    · intro second hsecond
      obtain ⟨first, hfirst, heq⟩ := hentry second hsecond
      exact ih first hfirst second hsecond heq (hnode.entry hfirst)

end Node.IsRelisting

/-! ### Walks -/

namespace Place.IsRelisting

variable {root otherRoot : Node} {place other : Place}

theorem parent (h : place.IsRelisting other) : place.parent.IsRelisting other.parent := by
  obtain ⟨node, above⟩ := place
  obtain ⟨otherNode, otherAbove⟩ := other
  cases h.above with
  | nil => exact h
  | cons hupper habove => exact ⟨hupper, habove⟩

theorem enter {node otherNode : Node} (h : place.IsRelisting other)
    (hnode : node.IsRelisting otherNode) : (place.enter node).IsRelisting (other.enter otherNode) :=
  ⟨hnode, .cons h.node h.above⟩

theorem ofRoot (hroot : root.IsRelisting otherRoot) :
    (Place.mk root []).IsRelisting ⟨otherRoot, []⟩ :=
  ⟨hroot, .nil⟩

theorem base (h : place.IsRelisting other) (hroot : root.IsRelisting otherRoot)
    (target : List UInt8) :
    (Disk.base root place target).IsRelisting (Disk.base otherRoot other target) := by
  unfold Disk.base
  split_ifs
  · exact ofRoot hroot
  · exact h

theorem exists_others {entries : List (EntryName × Node)} (h : place.IsRelisting other)
    (hnode : place.node = .directory entries) : ∃ others, other.node = .directory others ∧
      (Node.directory entries).IsRelisting (.directory others) := by
  have hboth := h.node
  rw [hnode] at hboth
  obtain ⟨others, hother⟩ := hboth.exists_others
  exact ⟨others, hother, hother ▸ hboth⟩

theorem closed {cause : SystemError} (h : place.IsRelisting other)
    (hnode : place.node = .closedDirectory cause) : other.node = .closedDirectory cause := by
  have hboth := h.node
  rw [hnode] at hboth
  exact hboth.closedDirectory_eq

/-- Following names leads to the same place. -/
theorem walk {budget : Nat} {path : List EntryName} (hroot : root.IsRelisting otherRoot)
    (hplace : place.IsRelisting other) :
    IsSameWalk (Disk.walk root budget place path) (Disk.walk otherRoot budget other path) := by
  fun_induction Disk.walk root budget place path generalizing other with
  | case1 budget place =>
    rw [Disk.walk]
    exact .leads hplace budget
  | case2 budget place name rest entries hnode hidle ih =>
    obtain ⟨others, hother, -⟩ := hplace.exists_others hnode
    rw [Disk.walk]
    simp only [hother, hidle, if_true]
    exact ih hplace
  | case3 budget place rest entries hnode hidle ih =>
    obtain ⟨others, hother, -⟩ := hplace.exists_others hnode
    rw [Disk.walk]
    simp only [hother, hidle, if_false, if_true]
    exact ih hplace.parent
  | case4 budget place name rest entries hnode hidle hup hlookup =>
    obtain ⟨others, hother, hentries⟩ := hplace.exists_others hnode
    have hsame := hentries.lookup name
    rw [hlookup] at hsame
    generalize hfound : others.lookup name = found at hsame
    cases hsame
    rw [Disk.walk]
    simp only [hother, hidle, hup, hfound, if_false]
    exact .refused .notFound
  | case5 place name rest entries hnode hidle hup target hlookup =>
    obtain ⟨others, hother, hentries⟩ := hplace.exists_others hnode
    rw [Disk.walk]
    simp only [hother, hidle, hup, hentries.lookup_link hlookup, if_false]
    exact .refused .tooManyLinks
  | case6 place name rest entries hnode hidle hup target hlookup left ih =>
    obtain ⟨others, hother, hentries⟩ := hplace.exists_others hnode
    rw [Disk.walk]
    simp only [hother, hidle, hup, hentries.lookup_link hlookup, if_false]
    exact ih (hplace.base hroot target)
  | case7 budget place name rest entries hnode hidle hup node hlink hlookup ih =>
    obtain ⟨others, hother, hentries⟩ := hplace.exists_others hnode
    have hsame := hentries.lookup name
    rw [hlookup] at hsame
    generalize hfound : others.lookup name = found at hsame
    cases hsame with
    | @some _ found h =>
      rw [Disk.walk]
      simp only [hother, hidle, hup, hfound, if_false]
      cases h with
      | file content => exact ih (hplace.enter (.file content))
      | closedDirectory cause => exact ih (hplace.enter (.closedDirectory cause))
      | link target => exact absurd rfl (hlink target)
      | directory hnames hnodes => exact ih (hplace.enter (.directory hnames hnodes))
  | case8 budget place rest cause hnode ih =>
    rw [Disk.walk]
    simp only [hplace.closed hnode, if_true]
    exact ih hplace
  | case9 budget place name rest cause hnode hname =>
    rw [Disk.walk]
    simp only [hplace.closed hnode, hname, if_false]
    exact .refused cause
  | case10 budget place name rest hnode hclosed =>
    have hboth := hplace.node
    rw [Disk.walk]
    split
    · next others hother =>
      rw [hother] at hboth
      obtain ⟨entries, hentries⟩ := hboth.exists_entries
      exact absurd hentries (hnode entries)
    · next cause hother =>
      rw [hother] at hboth
      exact absurd hboth.eq_closedDirectory (hclosed cause)
    · exact .refused .notADirectory

end Place.IsRelisting

/-- The same is told of every path. -/
theorem isAlike_observe {root other : Node} (h : root.IsRelisting other) (path : List UInt8) :
    (observe root path).IsAlike (observe other path) := by
  rw [observe, observe, resolve, resolve]
  split_ifs
  · exact .refused .notFound
  · have hsame : IsSameWalk (walk root maxLinks ⟨root, []⟩ (names path))
        (walk other maxLinks ⟨other, []⟩ (names path)) := Place.IsRelisting.walk h (.ofRoot h)
    generalize walk root maxLinks ⟨root, []⟩ (names path) = first at hsame ⊢
    generalize walk other maxLinks ⟨other, []⟩ (names path) = second at hsame ⊢
    cases hsame with
    | refused cause => exact .refused cause
    | @leads place otherPlace hplace budget =>
      obtain ⟨node, above⟩ := place
      obtain ⟨otherNode, otherAbove⟩ := otherPlace
      have hnode : node.IsRelisting otherNode := hplace.node
      cases hnode with
      | file content => exact .file content
      | closedDirectory cause => exact .refused cause
      | link target => exact .refused .tooManyLinks
      | directory hnames hnodes => exact .directory hnames

end WebGateway.Disk
