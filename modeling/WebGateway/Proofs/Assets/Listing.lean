import Mathlib.Data.Set.Finite.Lattice
import WebGateway.Proofs.Assets.Sightings
import WebGateway.Proofs.Disk.Relisting
import WebGateway.Proofs.Results

/-!
# What can be listed below a path

From outside, a disk is known by what the operating system tells of its paths. Below a path lies
what can be listed step by step: a name that a directory lists there is joined to the path of that
directory, and the new path is asked for in turn (`IsListed`). The system resolves each of these
paths from its start, while the walk through the directories only goes on from where it is; both
agree, with the links that may still be followed (`resolve_joinName`). So the walk sees exactly what
can be listed (`mem_seenAt_iff`), and as each link that it follows takes one of the links that
are left, no more than finitely many names can be listed (`finite_isListed`).
-/

set_option autoImplicit false
set_option relaxedAutoImplicit false

namespace WebGateway.Assets

open Disk (EntryName IsEntryName Node Observation Place observe)

/-- The names lead from a path through directories, each of which lists the next of them. -/
inductive IsListed (root : Node) (base : List UInt8) : List EntryName → Prop
  | top : IsListed root base []
  | entry {names listing : List EntryName} {name : EntryName} (hnames : IsListed root base names)
      (hdirectory : observe root (pathTo base names) = .directory listing)
      (hname : name ∈ listing) : IsListed root base (names ++ [name])

/-- Where an entry of a directory leads, with the number of links that may still be followed. -/
def arrive (root : Node) (budget : Nat) (place : Place) : Node → Except SystemError (Place × Nat)
  | .link target => follow root budget place target
  | node => .ok (place.enter node, budget)

/-- What lies at or below the place where the names lead. -/
def seenAt (root : Node) (names : List EntryName) :
    Except SystemError (Place × Nat) → List Sighting
  | .error cause => [⟨names, .error cause⟩]
  | .ok (⟨.file content, _⟩, _) => [⟨names, .ok content⟩]
  | .ok (⟨.directory entries, above⟩, left) =>
    sightings root left ⟨.directory entries, above⟩ names entries
  | .ok (⟨.closedDirectory cause, _⟩, _) => [⟨names, .error cause⟩]
  | .ok (⟨.link _, _⟩, _) => [⟨names, .error .tooManyLinks⟩]

/-- What is told of the path of a sighting. -/
def Sighting.observation (sighting : Sighting) : Observation :=
  match sighting.content with
  | .ok content => .file content
  | .error cause => .refused cause

variable {root : Node} {budget : Nat} {place : Place} {entries : List (EntryName × Node)}
variable {name : EntryName} {node : Node}

/-! ### Entries of a directory -/

theorem walk_singleton (hplace : place.node = .directory entries) (hname : IsEntryName name)
    (hnode : entries.lookup name = some node) :
    Disk.walk root budget place [name] = arrive root budget place node := by
  have hidle : ¬(name = [] ∨ name = Disk.here) := not_or.mpr ⟨hname.ne_nil, hname.ne_here⟩
  have hend : ∀ place, Disk.walk root budget place [] = .ok (place, budget) := fun place ↦ by
    rw [Disk.walk]
  rw [Disk.walk]
  cases node with
  | link target =>
    simp only [hplace, hidle, hname.ne_up, hnode, if_false, List.append_nil]
    rfl
  | _ =>
    simp only [hplace, hidle, hname.ne_up, hnode, if_false, hend]
    rfl

/-- Each entry that is reached takes a link from those that are left or lies deeper in the tree. -/
theorem arrive_lt {goal : Place} {left : Nat} (hplace : place.node = .directory entries)
    (hentry : (name, node) ∈ entries) (h : arrive root budget place node = .ok (goal, left)) :
    Prod.Lex (· < ·) (· < ·) (left, sizeOf goal.node) (budget, sizeOf place.node) := by
  have hsize : sizeOf node < sizeOf place.node := by
    have hmem := List.sizeOf_lt_of_mem hentry
    rw [hplace]
    simp only [Prod.mk.sizeOf_spec, Node.directory.sizeOf_spec] at hmem ⊢
    omega
  cases node with
  | link target => exact Prod.Lex.left _ _ (follow_budget_lt h)
  | _ =>
    cases h
    exact Prod.Lex.right _ hsize

/-- What holds of a place if it holds wherever the entries of its directory lead holds of all. -/
theorem place_induction {motive : Place → Nat → Prop}
    (step : ∀ place budget, (∀ entries, place.node = .directory entries → ∀ entry ∈ entries,
      ∀ goal left, arrive root budget place entry.2 = .ok (goal, left) → motive goal left) →
      motive place budget) (place : Place) (budget : Nat) : motive place budget :=
  step place budget fun _ _ _ _ goal left _ ↦ place_induction step goal left
termination_by (budget, sizeOf place.node)
decreasing_by exact arrive_lt ‹_› ‹_› ‹_›

theorem sightings_cons (names : List EntryName) (rest : List (EntryName × Node)) :
    sightings root budget place names ((name, node) :: rest) =
      seenAt root (names ++ [name]) (arrive root budget place node) ++
        sightings root budget place names rest := by
  cases node with
  | link target =>
    rw [sightings]
    congr 1
    unfold seenAt arrive
    split <;> simp [*]
  | _ =>
    rw [sightings]
    rfl

theorem mem_sightings_iff_exists_entry {names : List EntryName} {sighting : Sighting} :
    sighting ∈ sightings root budget place names entries ↔
      ∃ entry ∈ entries,
        sighting ∈ seenAt root (names ++ [entry.1]) (arrive root budget place entry.2) := by
  induction entries with
  | nil => simp [sightings]
  | cons entry rest ih =>
    rw [sightings_cons, List.mem_append, ih, List.exists_mem_cons_iff]

/-! ### Joined paths -/

theorem names_append_slash (path : List UInt8) {name : List UInt8} (hname : Disk.slash ∉ name) :
    Disk.names (path ++ Disk.slash :: name) = Disk.names path ++ [name] := by
  rw [Disk.names, List.splitOn_append_cons_self, List.splitOn_eq_singleton hname]
  rfl

theorem eq_of_walk_empty_name {result : Place × Nat}
    (h : Disk.walk root budget place [[]] = .ok result) : result = (place, budget) := by
  have hend : Disk.walk root budget place [] = .ok (place, budget) := by rw [Disk.walk]
  rw [Disk.walk] at h
  split at h
  · simp only [true_or, if_true, hend] at h
    exact (Except.ok.inj h).symm
  · simp only [if_true, hend] at h
    exact (Except.ok.inj h).symm
  · cases h

/-- The name of an entry is followed from where the path of its directory leads. -/
theorem resolve_joinName {path : List UInt8} (hpath : Disk.resolve root path = .ok (place, budget))
    (hname : IsEntryName name) :
    Disk.resolve root (joinName path name) = Disk.walk root budget place [name] := by
  have hne : path ≠ [] := by
    rintro rfl
    cases hpath
  have hjoined : joinName path name ≠ [] := by
    rw [joinName]
    split_ifs <;> exact List.append_ne_nil_of_left_ne_nil hne _
  rw [Disk.resolve, if_neg hne] at hpath
  rw [Disk.resolve, if_neg hjoined, joinName]
  split_ifs with hslash
  · -- What stands behind the last slash is an empty name, in the place of which the name is put.
    obtain ⟨front, rfl⟩ := List.getLast?_eq_some_iff.mp hslash
    rw [names_append_slash front List.not_mem_nil, Disk.walk_append] at hpath
    obtain ⟨⟨goal, left⟩, hgoal, hlast⟩ := exists_of_bind_eq_ok hpath
    obtain ⟨rfl, rfl⟩ := Prod.mk.inj (eq_of_walk_empty_name hlast)
    rw [List.append_assoc, List.singleton_append, names_append_slash front hname.slash_notMem,
      Disk.walk_append, hgoal]
    rfl
  · rw [names_append_slash path hname.slash_notMem, Disk.walk_append, hpath]
    rfl

theorem isTree_of_resolve {path : List UInt8} (htree : root.IsTree)
    (hpath : Disk.resolve root path = .ok (place, budget))
    (hplace : place.node = .directory entries) : (Node.directory entries).IsTree := by
  have hsound : place.IsSound := Place.IsSound.resolve htree hpath
  exact hplace ▸ hsound.isTree

/-- An entry leads where its path leads. -/
theorem resolve_entry {base : List UInt8} {names : List EntryName} (htree : root.IsTree)
    (hpath : Disk.resolve root (pathTo base names) = .ok (place, budget))
    (hplace : place.node = .directory entries) (hentry : (name, node) ∈ entries) :
    Disk.resolve root (pathTo base (names ++ [name])) = arrive root budget place node := by
  have hdirectory := isTree_of_resolve htree hpath hplace
  have hname := hdirectory.isEntryName hentry
  have hlookup := (Entries.lookup_eq_some_iff hdirectory.nodup).mpr hentry
  rw [pathTo_append_singleton, resolve_joinName hpath hname, walk_singleton hplace hname hlookup]

/-! ### What is seen -/

section Seen

variable {base path : List UInt8} {names : List EntryName} {sighting : Sighting}

theorem seenAt_directory (hplace : place.node = .directory entries) :
    seenAt root names (.ok (place, budget)) = sightings root budget place names entries := by
  obtain ⟨node, above⟩ := place
  subst hplace
  rfl

/-- Only a directory shows more than itself. -/
theorem eq_or_exists_directory {result : Except SystemError (Place × Nat)}
    (h : sighting ∈ seenAt root names result) :
    (sighting.names = names ∧ .ofResult result = sighting.observation) ∨
      ∃ place budget entries, result = .ok (place, budget) ∧ place.node = .directory entries ∧
        sighting ∈ sightings root budget place names entries := by
  match result with
  | .error cause =>
    obtain rfl := List.mem_singleton.mp h
    exact Or.inl ⟨rfl, rfl⟩
  | .ok (⟨.file content, above⟩, budget) =>
    obtain rfl := List.mem_singleton.mp h
    exact Or.inl ⟨rfl, rfl⟩
  | .ok (⟨.directory entries, above⟩, budget) =>
    exact Or.inr ⟨⟨.directory entries, above⟩, budget, entries, rfl, rfl, h⟩
  | .ok (⟨.closedDirectory cause, above⟩, budget) =>
    obtain rfl := List.mem_singleton.mp h
    exact Or.inl ⟨rfl, rfl⟩
  | .ok (⟨.link target, above⟩, budget) =>
    obtain rfl := List.mem_singleton.mp h
    exact Or.inl ⟨rfl, rfl⟩

theorem mem_seenAt_of_observation {result : Except SystemError (Place × Nat)}
    (h : .ofResult result = sighting.observation) :
    sighting ∈ seenAt root sighting.names result := by
  obtain ⟨names, found⟩ := sighting
  match result, found with
  | .error cause, .error other =>
    cases h
    exact List.mem_singleton_self _
  | .error cause, .ok content => cases h
  | .ok (⟨.file content, above⟩, budget), .ok other =>
    cases h
    exact List.mem_singleton_self _
  | .ok (⟨.file content, above⟩, budget), .error cause => cases h
  | .ok (⟨.directory entries, above⟩, budget), .ok content => cases h
  | .ok (⟨.directory entries, above⟩, budget), .error cause => cases h
  | .ok (⟨.closedDirectory cause, above⟩, budget), .ok content => cases h
  | .ok (⟨.closedDirectory cause, above⟩, budget), .error other =>
    cases h
    exact List.mem_singleton_self _
  | .ok (⟨.link target, above⟩, budget), .ok content => cases h
  | .ok (⟨.link target, above⟩, budget), .error cause =>
    cases h
    exact List.mem_singleton_self _

theorem observe_directory (hpath : Disk.resolve root path = .ok (place, budget))
    (hplace : place.node = .directory entries) :
    observe root path = .directory (entries.map Prod.fst) := by
  obtain ⟨directory, above⟩ := place
  subst hplace
  rw [observe, hpath]
  rfl

theorem IsListed.of_entry (hnames : IsListed root base names)
    (hpath : Disk.resolve root (pathTo base names) = .ok (place, budget))
    (hplace : place.node = .directory entries) (hentry : (name, node) ∈ entries) :
    IsListed root base (names ++ [name]) :=
  hnames.entry (observe_directory hpath hplace)
    (List.mem_map.mpr ⟨(name, node), hentry, rfl⟩)

theorem isListed_of_mem_sightings (htree : root.IsTree) (hnames : IsListed root base names)
    (hpath : Disk.resolve root (pathTo base names) = .ok (place, budget))
    (hplace : place.node = .directory entries)
    (h : sighting ∈ sightings root budget place names entries) :
    IsListed root base sighting.names ∧
      observe root (pathTo base sighting.names) = sighting.observation := by
  induction place, budget using place_induction generalizing names entries with
  | step place budget ih =>
    obtain ⟨⟨name, node⟩, hentry, hseen⟩ := mem_sightings_iff_exists_entry.mp h
    have hlisted := hnames.of_entry hpath hplace hentry
    have hreached := resolve_entry htree hpath hplace hentry
    rcases eq_or_exists_directory hseen with ⟨hself, htold⟩ | hinside
    · rw [hself, observe, hreached]
      exact ⟨hlisted, htold⟩
    · obtain ⟨goal, left, inner, harrive, hgoal, hseen⟩ := hinside
      exact ih entries hplace (name, node) hentry goal left harrive hlisted
        (hreached.trans harrive) hgoal hseen

/-- Whatever can be listed shows nothing that is not seen from the top. -/
theorem seenAt_subset (htree : root.IsTree) (hnames : IsListed root base names) :
    seenAt root names (Disk.resolve root (pathTo base names)) ⊆
      seenAt root [] (Disk.resolve root base) := by
  induction hnames with
  | top => exact List.Subset.refl _
  | @entry names listing name hnames hdirectory hname ih =>
    obtain ⟨place, budget, entries, hpath, hplace, rfl⟩ :=
      Observation.exists_of_ofResult_eq_directory hdirectory
    obtain ⟨⟨_, node⟩, hentry, rfl⟩ := List.mem_map.mp hname
    rw [resolve_entry htree hpath hplace hentry]
    refine List.Subset.trans (fun sighting hseen ↦ ?_) ih
    rw [hpath, seenAt_directory hplace]
    exact mem_sightings_iff_exists_entry.mpr ⟨_, hentry, hseen⟩

/-- What is seen from the top is what can be listed below it and is no directory. -/
theorem mem_seenAt_iff (htree : root.IsTree) :
    sighting ∈ seenAt root [] (Disk.resolve root base) ↔
      IsListed root base sighting.names ∧
        observe root (pathTo base sighting.names) = sighting.observation := by
  constructor
  · intro h
    rcases eq_or_exists_directory h with ⟨hself, htold⟩ | hinside
    · rw [hself]
      exact ⟨.top, htold⟩
    · obtain ⟨place, budget, entries, hpath, hplace, hseen⟩ := hinside
      exact isListed_of_mem_sightings htree .top hpath hplace hseen
  · rintro ⟨hlisted, htold⟩
    exact seenAt_subset htree hlisted (mem_seenAt_of_observation htold)

theorem IsListed.isEntryName (htree : root.IsTree) (h : IsListed root base names) :
    ∀ name ∈ names, IsEntryName name := by
  induction h with
  | top => simp
  | @entry names listing name hnames hdirectory hname ih =>
    obtain ⟨place, budget, entries, hpath, hplace, rfl⟩ :=
      Observation.exists_of_ofResult_eq_directory hdirectory
    obtain ⟨⟨_, node⟩, hentry, rfl⟩ := List.mem_map.mp hname
    intro other hother
    rcases List.mem_append.mp hother with hother | hother
    · exact ih other hother
    · rw [List.mem_singleton.mp hother]
      exact (isTree_of_resolve htree hpath hplace).isEntryName hentry

end Seen

/-! ### How much can be listed -/

section Extent

variable {base : List UInt8} {names others : List EntryName}

/-- What is listed behind some names is listed through the directory that they lead to. -/
theorem IsListed.eq_or_through (h : IsListed root base others) (hbehind : names <+: others) :
    others = names ∨ ∃ listing name, observe root (pathTo base names) = .directory listing ∧
      name ∈ listing ∧ names ++ [name] <+: others := by
  induction h with
  | top => exact Or.inl (List.prefix_nil.mp hbehind).symm
  | @entry before listing name hbefore hdirectory hname ih =>
    rcases List.prefix_concat_iff.mp hbehind with rfl | hbehind
    · exact Or.inl rfl
    · refine Or.inr ?_
      rcases ih hbehind with rfl | ⟨listing', name', hdirectory', hname', hbehind'⟩
      · exact ⟨listing, name, hdirectory, hname, List.prefix_rfl⟩
      · exact ⟨listing', name', hdirectory', hname', hbehind'.trans (List.prefix_append _ _)⟩

/-- What can be listed at the names and behind them. -/
def listedBehind (root : Node) (base : List UInt8) (names : List EntryName) :
    Set (List EntryName) :=
  {others | names <+: others ∧ IsListed root base others}

theorem finite_listedBehind_of_not_directory
    (h : ∀ listing, observe root (pathTo base names) ≠ .directory listing) :
    (listedBehind root base names).Finite := by
  refine (Set.finite_singleton names).subset ?_
  rintro others ⟨hbehind, hlisted⟩
  rcases hlisted.eq_or_through hbehind with rfl | ⟨listing, -, hdirectory, -⟩
  · rfl
  · exact absurd hdirectory (h listing)

theorem finite_listedBehind_of_error {cause : SystemError}
    (hpath : Disk.resolve root (pathTo base names) = .error cause) :
    (listedBehind root base names).Finite := by
  refine finite_listedBehind_of_not_directory fun listing htold ↦ ?_
  rw [observe, hpath] at htold
  cases htold

theorem listedBehind_subset_iUnion
    (h : observe root (pathTo base names) = .directory (entries.map Prod.fst)) :
    listedBehind root base names ⊆
      {names} ∪ ⋃ entry ∈ {entry | entry ∈ entries},
        listedBehind root base (names ++ [entry.1]) := by
  rintro others ⟨hbehind, hlisted⟩
  rcases hlisted.eq_or_through hbehind with rfl | ⟨listing, name, hdirectory, hname, hthrough⟩
  · exact Or.inl rfl
  · obtain rfl := Observation.directory.inj (h.symm.trans hdirectory)
    obtain ⟨entry, hentry, rfl⟩ := List.mem_map.mp hname
    exact Or.inr (Set.mem_biUnion hentry ⟨hthrough, hlisted⟩)

theorem finite_listedBehind_of_ok (htree : root.IsTree)
    (hpath : Disk.resolve root (pathTo base names) = .ok (place, budget)) :
    (listedBehind root base names).Finite := by
  induction place, budget using place_induction generalizing names with
  | step place budget ih =>
    by_cases hdirectory : ∃ listing, observe root (pathTo base names) = .directory listing
    · obtain ⟨listing, htold⟩ := hdirectory
      obtain ⟨_, _, entries, hsame, hplace, rfl⟩ :=
        Observation.exists_of_ofResult_eq_directory htold
      obtain ⟨rfl, rfl⟩ := Prod.mk.inj (Except.ok.inj (hpath.symm.trans hsame))
      have hentries : ∀ entry ∈ {entry | entry ∈ entries},
          (listedBehind root base (names ++ [entry.1])).Finite := by
        rintro ⟨name, node⟩ hentry
        have hreached := resolve_entry htree hpath hplace hentry
        cases harrive : arrive root budget place node with
        | error cause => exact finite_listedBehind_of_error (hreached.trans harrive)
        | ok result => exact ih entries hplace _ hentry _ _ harrive (hreached.trans harrive)
      exact ((Set.finite_singleton names).union
        (entries.finite_toSet.biUnion hentries)).subset (listedBehind_subset_iUnion htold)
    · exact finite_listedBehind_of_not_directory fun listing htold ↦ hdirectory ⟨listing, htold⟩

/-- However the links lead around, no more than finitely many names can be listed. -/
theorem finite_isListed (htree : root.IsTree) (base : List UInt8) :
    {names | IsListed root base names}.Finite := by
  have hbehind : {names | IsListed root base names} = listedBehind root base [] := by
    ext names
    simp [listedBehind]
  rw [hbehind]
  cases hpath : Disk.resolve root (pathTo base []) with
  | error cause => exact finite_listedBehind_of_error hpath
  | ok result => exact finite_listedBehind_of_ok htree hpath

end Extent

/-! ### The order of the listings -/

/-- Where the same is told of every path, the same can be listed. -/
theorem IsListed.of_isAlike {other : Node} {base : List UInt8} {names : List EntryName}
    (hsame : ∀ path, (observe root path).IsAlike (observe other path))
    (h : IsListed root base names) : IsListed other base names := by
  induction h with
  | top => exact .top
  | @entry names listing name hnames hdirectory hname ih =>
    have htold := hsame (pathTo base names)
    rw [hdirectory] at htold
    obtain ⟨others, hother, hperm⟩ := htold.exists_directory
    exact ih.entry hother (hperm.mem_iff.mp hname)

end WebGateway.Assets
