import Mathlib.Data.List.Nodup

/-!
# Values under names

Some lists hold values under names and are only read through `lookup`. A value is put under a name
in front of what the list holds under other names, so that every name stands in it once.
-/

set_option autoImplicit false
set_option relaxedAutoImplicit false

namespace WebGateway.Entries

variable {α β : Type}

theorem lookup_filter_of_ne (entries : List (String × α)) {name key : String} (hkey : key ≠ name) :
    (entries.filter fun entry ↦ entry.1 ≠ name).lookup key = entries.lookup key := by
  induction entries with
  | nil => rfl
  | cons entry rest ih =>
    obtain ⟨other, value⟩ := entry
    by_cases hother : other = name
    · subst hother
      rw [List.filter_cons_of_neg (by simp), ih, List.lookup_cons, beq_false_of_ne hkey]
    · rw [List.filter_cons_of_pos (by simpa using hother), List.lookup_cons, List.lookup_cons, ih]

/-- What is removed is not found, and all else is. -/
theorem lookup_filter (entries : List (String × α)) (name key : String) :
    (entries.filter fun entry ↦ entry.1 ≠ name).lookup key =
      if key = name then none else entries.lookup key := by
  split_ifs with hkey
  · rw [List.lookup_eq_none_iff]
    intro entry hentry
    have hname : entry.1 ≠ name := by simpa using (List.mem_filter.mp hentry).2
    simpa [hkey] using hname.symm
  · exact lookup_filter_of_ne entries hkey

theorem lookup_cons_filter (entries : List (String × α)) (name key : String) (value : α) :
    ((name, value) :: entries.filter fun entry ↦ entry.1 ≠ name).lookup key =
      if key = name then some value else entries.lookup key := by
  rw [List.lookup_cons]
  split_ifs with hkey
  · simp [hkey]
  · rw [beq_false_of_ne hkey, lookup_filter_of_ne entries hkey]

theorem lookup_map (entries : List (String × α)) (f : α → β) (key : String) :
    (entries.map fun entry ↦ (entry.1, f entry.2)).lookup key = (entries.lookup key).map f := by
  induction entries with
  | nil => rfl
  | cons entry rest ih =>
    rw [List.map_cons, List.lookup_cons, List.lookup_cons, ih]
    cases key == entry.1 <;> rfl

theorem isSome_lookup_iff {κ : Type} [BEq κ] [LawfulBEq κ] {entries : List (κ × α)} {key : κ} :
    (entries.lookup key).isSome ↔ key ∈ entries.map Prod.fst := by
  rw [List.lookup_isSome_iff, List.mem_map]
  constructor
  · rintro ⟨entry, hentry, hkey⟩
    exact ⟨entry, hentry, (eq_of_beq hkey).symm⟩
  · rintro ⟨entry, hentry, hkey⟩
    exact ⟨entry, hentry, beq_iff_eq.mpr hkey.symm⟩

theorem mem_of_lookup_eq_some {κ : Type} [BEq κ] [LawfulBEq κ] {entries : List (κ × α)} {key : κ}
    {value : α} (h : entries.lookup key = some value) : (key, value) ∈ entries := by
  obtain ⟨before, behind, heq, -⟩ := List.lookup_eq_some_iff.mp h
  rw [heq]
  exact List.mem_append_right before List.mem_cons_self

/-- Under distinct names, what the list holds is what is found in it. -/
theorem lookup_eq_some_iff {κ : Type} [BEq κ] [LawfulBEq κ] {entries : List (κ × α)} {key : κ}
    {value : α} (hnodup : (entries.map Prod.fst).Nodup) :
    entries.lookup key = some value ↔ (key, value) ∈ entries := by
  refine ⟨mem_of_lookup_eq_some, fun hmem ↦ ?_⟩
  cases hfound : entries.lookup key with
  | none =>
    rw [List.lookup_eq_none_iff] at hfound
    simpa using hfound (key, value) hmem
  | some found =>
    have hentry : (key, found) = (key, value) :=
      List.inj_on_of_nodup_map hnodup (mem_of_lookup_eq_some hfound) hmem rfl
    rw [(Prod.mk.inj hentry).2]

theorem nodup_names_filter {entries : List (String × α)} (h : (entries.map Prod.fst).Nodup)
    (name : String) : ((entries.filter fun entry ↦ entry.1 ≠ name).map Prod.fst).Nodup :=
  h.sublist (List.filter_sublist.map Prod.fst)

theorem nodup_names_cons_filter {entries : List (String × α)} (h : (entries.map Prod.fst).Nodup)
    (name : String) (value : α) :
    (((name, value) :: entries.filter fun entry ↦ entry.1 ≠ name).map Prod.fst).Nodup := by
  rw [List.map_cons, List.nodup_cons]
  constructor
  · simp
  · exact nodup_names_filter h name

end WebGateway.Entries
