import Mathlib.Data.List.DropRight
import WebGateway.Text.Blank

/-!
# What is left of a trimmed list

Of a list that is trimmed at both ends a contiguous part is left, which is empty exactly when every
element is dropped, and neither end of it would be dropped (`trimEnds_append_append`). A list that
is split at a separator can be trimmed before its parts are trimmed, or not: the trimmed parts are
the same (`map_trimEnds_splitOn_trimEnds`). What the blanks around a text leave is the only part of
it with blanks alone around it and none at its own ends (`trimBlanks_eq_iff`).
-/

set_option autoImplicit false
set_option relaxedAutoImplicit false

namespace WebGateway.Text

variable {α β : Type} {p q : α → Bool} {word : List α} {x : α}

theorem trimRight_eq_rdropWhile (p : α → Bool) (word : List α) :
    trimRight p word = word.rdropWhile p :=
  rfl

/-! ### Trimming at the end -/

theorem trimRight_cons (p : α → Bool) (x : α) (rest : List α) :
    trimRight p (x :: rest) =
      if trimRight p rest = [] then if p x then [] else [x] else x :: trimRight p rest := by
  rw [trimRight, List.reverse_cons, List.dropWhile_append]
  by_cases hrest : rest.reverse.dropWhile p = []
  · by_cases hx : p x = true <;> simp [trimRight, hrest, hx]
  · simp [trimRight, hrest]

theorem trimRight_append_of_forall (word : List α) {after : List α}
    (hafter : ∀ x ∈ after, p x = true) : trimRight p (word ++ after) = trimRight p word := by
  rw [trimRight, List.reverse_append,
    List.dropWhile_append_of_pos fun x hx ↦ hafter x (List.mem_reverse.mp hx), trimRight]

/-- The last element that is kept fails the test. -/
theorem eq_false_of_getLast?_trimRight (h : (trimRight p word).getLast? = some x) :
    p x = false := by
  have hne : word.rdropWhile p ≠ [] := by
    intro hnil
    rw [trimRight_eq_rdropWhile, hnil] at h
    cases h
  rw [trimRight_eq_rdropWhile, List.getLast?_eq_some_getLast hne, Option.some.injEq] at h
  rw [← h]
  exact Bool.eq_false_iff.mpr (List.rdropWhile_last_not p word hne)

/-! ### Trimming at both ends -/

/-- Nothing remains exactly when every element is dropped. -/
theorem trimEnds_eq_nil_iff : trimEnds p word = [] ↔ ∀ x ∈ word, p x = true := by
  rw [trimEnds, trimRight_eq_rdropWhile, List.rdropWhile_eq_nil_iff]
  constructor
  · intro hdropped x hx
    rw [← List.takeWhile_append_dropWhile (p := p) (l := word), List.mem_append] at hx
    exact hx.elim List.mem_takeWhile_imp (hdropped x)
  · exact fun hall x hx ↦ hall x ((List.dropWhile_sublist p).subset hx)

/-- Nothing is dropped where nothing satisfies `p`. -/
theorem trimEnds_eq_self (h : ∀ x ∈ word, p x = false) : trimEnds p word = word := by
  have hfront : word.dropWhile p = word := by
    cases word with
    | nil => rfl
    | cons x rest => exact List.dropWhile_cons_of_neg (by simp [h x List.mem_cons_self])
  rw [trimEnds, hfront, trimRight_eq_rdropWhile, List.rdropWhile_eq_self_iff]
  exact fun hne ↦ Bool.eq_false_iff.mp (h _ (List.getLast_mem hne))

theorem dropWhile_congr (h : ∀ x ∈ word, p x = q x) : word.dropWhile p = word.dropWhile q := by
  induction word with
  | nil => rfl
  | cons x rest ih =>
    rw [List.dropWhile_cons, List.dropWhile_cons, h x List.mem_cons_self,
      ih fun y hy ↦ h y (List.mem_cons_of_mem x hy)]

/-- Only what is in the list decides where it is trimmed. -/
theorem trimEnds_congr (h : ∀ x ∈ word, p x = q x) : trimEnds p word = trimEnds q word := by
  rw [trimEnds, trimEnds, ← dropWhile_congr h, trimRight, trimRight]
  congr 1
  refine dropWhile_congr fun x hx ↦ h x ?_
  exact (List.dropWhile_sublist p).subset (List.mem_reverse.mp hx)

theorem trimEnds_map (f : β → α) (p : α → Bool) (word : List β) :
    trimEnds p (word.map f) = (trimEnds (p ∘ f) word).map f := by
  rw [trimEnds, List.dropWhile_map, trimRight, ← List.map_reverse, List.dropWhile_map,
    ← List.map_reverse, trimEnds, trimRight]

/-- What is dropped at either end satisfies `p`. -/
theorem exists_append_trimEnds_append (p : α → Bool) (word : List α) :
    ∃ before after, word = before ++ trimEnds p word ++ after ∧
      (∀ x ∈ before, p x = true) ∧ ∀ x ∈ after, p x = true := by
  refine ⟨word.takeWhile p, (word.dropWhile p).rtakeWhile p, ?_, fun x ↦ List.mem_takeWhile_imp,
    fun x ↦ List.mem_rtakeWhile_imp⟩
  rw [List.append_assoc, trimEnds, trimRight_eq_rdropWhile, List.rdropWhile_append_rtakeWhile,
    List.takeWhile_append_dropWhile]

/-- The first element that is kept fails the test. -/
theorem eq_false_of_head?_trimEnds (h : (trimEnds p word).head? = some x) : p x = false := by
  obtain ⟨rest, hrest⟩ : trimEnds p word <+: word.dropWhile p := List.rdropWhile_prefix p _
  have hfirst := List.head?_dropWhile_not p word
  rw [← hrest, List.head?_append, h, Option.some_or] at hfirst
  exact hfirst

/-- What has neither end in the class is left when the class is put around it. -/
theorem trimEnds_append_append {before kept after : List α}
    (hbefore : ∀ x ∈ before, p x = true) (hafter : ∀ x ∈ after, p x = true)
    (hfirst : ∀ x, kept.head? = some x → p x = false)
    (hlast : ∀ x, kept.getLast? = some x → p x = false) :
    trimEnds p (before ++ kept ++ after) = kept := by
  cases kept with
  | nil =>
    rw [List.append_nil, trimEnds_eq_nil_iff]
    exact List.forall_mem_append.mpr ⟨hbefore, hafter⟩
  | cons x rest =>
    have hx : ¬p x = true := Bool.eq_false_iff.mp (hfirst x rfl)
    rw [trimEnds, List.append_assoc, List.dropWhile_append_of_pos hbefore, List.cons_append,
      List.dropWhile_cons_of_neg hx, ← List.cons_append, trimRight_append_of_forall _ hafter,
      trimRight_eq_rdropWhile, List.rdropWhile_eq_self_iff]
    exact fun hne ↦ Bool.eq_false_iff.mp (hlast _ (List.getLast?_eq_some_getLast hne))

/-- The ends can be trimmed in either order. -/
theorem trimEnds_eq_dropWhile_trimRight (p : α → Bool) (word : List α) :
    trimEnds p word = (trimRight p word).dropWhile p := by
  rw [trimEnds]
  induction word with
  | nil => rfl
  | cons x rest ih =>
    rw [trimRight_cons]
    by_cases hx : p x = true
    · rw [List.dropWhile_cons_of_pos hx, ih]
      by_cases hrest : trimRight p rest = [] <;> simp [hrest, hx]
    · rw [List.dropWhile_cons_of_neg hx, trimRight_cons]
      by_cases hrest : trimRight p rest = [] <;> simp [hrest, hx]

/-! ### Trimming the parts of a list -/

section Parts

variable [BEq α] [LawfulBEq α] {separator : α}

theorem map_trimEnds_splitOn_append {before : List α} (rest : List α)
    (h : ∀ x ∈ before, q x = true ∧ x ≠ separator) :
    ((before ++ rest).splitOn separator).map (trimEnds q) =
      (rest.splitOn separator).map (trimEnds q) := by
  induction before with
  | nil => rfl
  | cons x before ih =>
    obtain ⟨hx, hne⟩ := h x List.mem_cons_self
    rw [List.cons_append, List.splitOn_cons_eq_if_modifyHead,
      if_neg (by simpa using hne), ← ih fun y hy ↦ h y (List.mem_cons_of_mem x hy)]
    cases (before ++ rest).splitOn separator with
    | nil => rfl
    | cons part parts => simp [trimEnds, List.dropWhile_cons_of_pos hx]

theorem map_trimRight_splitOn_append (word : List α) {after : List α}
    (h : ∀ x ∈ after, q x = true ∧ x ≠ separator) :
    ((word ++ after).splitOn separator).map (trimRight q) =
      (word.splitOn separator).map (trimRight q) := by
  induction word with
  | nil =>
    have hwhole : after.splitOn separator = [after] :=
      List.splitOn_eq_singleton fun hmem ↦ (h separator hmem).2 rfl
    have hnil : trimRight q after = [] := List.rdropWhile_eq_nil_iff.mpr fun x hx ↦ (h x hx).1
    rw [List.nil_append, hwhole, List.splitOn_nil, List.map_singleton, List.map_singleton, hnil]
    rfl
  | cons x word ih =>
    rw [List.cons_append, List.splitOn_cons_eq_if_modifyHead,
      List.splitOn_cons_eq_if_modifyHead]
    split
    · rw [List.map_cons, ih, List.map_cons]
    · cases hlong : (word ++ after).splitOn separator with
      | nil => exact absurd hlong (List.splitOn_ne_nil separator _)
      | cons longPart longParts =>
        cases hshort : word.splitOn separator with
        | nil => exact absurd hshort (List.splitOn_ne_nil separator _)
        | cons shortPart shortParts =>
          rw [hlong, hshort, List.map_cons, List.map_cons, List.cons.injEq] at ih
          rw [List.modifyHead_cons, List.modifyHead_cons, List.map_cons, List.map_cons,
            trimRight_cons, trimRight_cons, ih.1, ih.2]

/-- A list that is trimmed before it is split has the same trimmed parts, if the separator is none
of what is dropped. -/
theorem map_trimEnds_splitOn_trimEnds (h : ∀ x, p x = true → q x = true)
    (hseparator : ¬p separator = true) (word : List α) :
    ((trimEnds p word).splitOn separator).map (trimEnds q) =
      (word.splitOn separator).map (trimEnds q) := by
  have hends : ∀ x, p x = true → q x = true ∧ x ≠ separator := fun x hx ↦
    ⟨h x hx, fun heq ↦ hseparator (heq ▸ hx)⟩
  obtain ⟨before, after, hword, hbefore, hafter⟩ := exists_append_trimEnds_append p word
  have hright := map_trimRight_splitOn_append (trimEnds p word)
    fun x hx ↦ hends x (hafter x hx)
  have htrim : trimEnds q = List.dropWhile q ∘ trimRight q :=
    funext fun part ↦ trimEnds_eq_dropWhile_trimRight q part
  calc ((trimEnds p word).splitOn separator).map (trimEnds q)
      = ((trimEnds p word ++ after).splitOn separator).map (trimEnds q) := by
        rw [htrim, ← List.map_map, ← List.map_map, hright]
    _ = (word.splitOn separator).map (trimEnds q) := by
        rw [← map_trimEnds_splitOn_append _ fun x hx ↦ hends x (hbefore x hx),
          ← List.append_assoc, ← hword]

end Parts

/-! ### Blanks around a text -/

/-- Blanks and nothing else stand around this part of the text, and it has none at its ends. -/
structure IsTrimmed (text kept : String) : Prop where
  split : ∃ before after, text.toList = before ++ kept.toList ++ after ∧
    (∀ c ∈ before, isBlank c = true) ∧ ∀ c ∈ after, isBlank c = true
  first : ∀ c, kept.toList.head? = some c → isBlank c = false
  last : ∀ c, kept.toList.getLast? = some c → isBlank c = false

theorem trimBlanks_eq_iff {text kept : String} :
    trimBlanks text = kept ↔ IsTrimmed text kept := by
  constructor
  · rintro rfl
    constructor
    · rw [toList_trimBlanks]
      exact exists_append_trimEnds_append isBlank text.toList
    · rw [toList_trimBlanks]
      exact fun c ↦ eq_false_of_head?_trimEnds
    · rw [toList_trimBlanks]
      exact fun c ↦ eq_false_of_getLast?_trimRight
  · rintro ⟨⟨before, after, htext, hbefore, hafter⟩, hfirst, hlast⟩
    rw [trimBlanks, htext, trimEnds_append_append hbefore hafter hfirst hlast,
      String.ofList_toList]

end WebGateway.Text
