import Mathlib.Data.List.Nodup
import WebGateway.Proofs.Routing.Decision

/-!
# Which path beginnings make a table

A list of path beginnings is refused for the first of them that does not begin with a slash. Where
all do, it is refused for a literal that is claimed twice, and of several such literals for one of
the longest: the literals are compared in the order of the rules, and a literal that is found twice
there is behind everything that is longer (`utf8ByteSize_le_of_repeated`). What is accepted is a
table of one rule for each literal, between the probe and the static bundle, in which longer
beginnings come first and those of one length keep their order (`isLongestFirst_longestFirst`).
-/

set_option autoImplicit false
set_option relaxedAutoImplicit false

namespace WebGateway.Routing

variable {extra : List String} {literal : String}

/-- Each beginning begins with a slash and claims a literal that nothing else claims. -/
structure IsAcceptable (extra : List String) : Prop where
  startsWithSlash : ∀ literal ∈ extra, Routing.startsWithSlash literal = true
  ne_slash : "/" ∉ extra
  ne_probePath : probePath ∉ extra
  not_default : ∀ literal ∈ defaultBeginnings, literal ∉ extra
  nodup : extra.Nodup

/-- The literal is claimed more than once: by the probe, a default beginning, one of the given
beginnings or the static bundle. -/
def IsContested (extra : List String) (literal : String) : Prop :=
  1 < (claimed extra).count literal

/-- The second list is the first one with longer texts in front, where texts of one length, in
octets, are in the order of the first list. -/
structure IsLongestFirst (literals sorted : List String) : Prop where
  perm : sorted.Perm literals
  pairwise : sorted.Pairwise fun first second ↦ second.utf8ByteSize ≤ first.utf8ByteSize
  filter_eq : ∀ size, (sorted.filter fun literal ↦ literal.utf8ByteSize = size) =
    literals.filter fun literal ↦ literal.utf8ByteSize = size

/-! ### Order -/

/-- Texts of one length keep their order. -/
theorem filter_longestFirst (literals : List String) (size : Nat) :
    ((longestFirst literals).filter fun literal ↦ literal.utf8ByteSize = size) =
      literals.filter fun literal ↦ literal.utf8ByteSize = size := by
  have hsame : (literals.filter fun literal ↦ literal.utf8ByteSize = size).Pairwise
      fun first second ↦ decide (second.utf8ByteSize ≤ first.utf8ByteSize) = true := by
    refine List.pairwise_of_forall_mem_list fun first hfirst second hsecond ↦ ?_
    have hfirstSize : first.utf8ByteSize = size := by simpa using (List.mem_filter.mp hfirst).2
    have hsecondSize : second.utf8ByteSize = size := by simpa using (List.mem_filter.mp hsecond).2
    simp [hfirstSize, hsecondSize]
  have hsublist : (literals.filter fun literal ↦ literal.utf8ByteSize = size).Sublist
      (longestFirst literals) :=
    List.sublist_mergeSort longer_trans longer_total hsame List.filter_sublist
  have hkept := hsublist.filter fun literal ↦ literal.utf8ByteSize = size
  rw [List.filter_filter] at hkept
  simp only [Bool.and_self] at hkept
  exact (hkept.eq_of_length ((perm_longestFirst literals).filter _).length_eq.symm).symm

theorem isLongestFirst_longestFirst (literals : List String) :
    IsLongestFirst literals (longestFirst literals) :=
  ⟨perm_longestFirst literals, pairwise_longestFirst literals, filter_longestFirst literals⟩

/-! ### Claims -/

/-- The literals that every table claims. -/
def reserved : List String :=
  probePath :: defaultBeginnings ++ ["/"]

theorem perm_claimed_reserved (extra : List String) :
    (claimed extra).Perm (reserved ++ extra) := by
  have hbehind : (defaultBeginnings ++ extra ++ ["/"]).Perm
      (defaultBeginnings ++ ["/"] ++ extra) := by
    rw [List.append_assoc, List.append_assoc]
    exact List.perm_append_comm.append_left defaultBeginnings
  exact hbehind.cons probePath

theorem isAcceptable_iff : IsAcceptable extra ↔
    (∀ literal ∈ extra, startsWithSlash literal = true) ∧ (claimed extra).Nodup := by
  have hreserved : reserved.Nodup := by decide
  rw [(perm_claimed_reserved extra).nodup_iff, List.nodup_append']
  constructor
  · rintro ⟨hslash, hroot, hprobe, hdefault, hnodup⟩
    refine ⟨hslash, hreserved, hnodup, fun literal hliteral ↦ ?_⟩
    rw [reserved, List.mem_append, List.mem_cons, List.mem_singleton] at hliteral
    rcases hliteral with (rfl | hliteral) | rfl
    · exact hprobe
    · exact hdefault literal hliteral
    · exact hroot
  · rintro ⟨hslash, -, hnodup, hdisjoint⟩
    refine ⟨hslash, fun h ↦ hdisjoint ?_ h, fun h ↦ hdisjoint ?_ h,
      fun literal hliteral h ↦ hdisjoint ?_ h, hnodup⟩
    · simp [reserved]
    · simp [reserved]
    · simp [reserved, hliteral]

/-- What is found twice is found behind distinct elements, and is one of them. -/
theorem exists_of_firstRepeated {α : Type} [DecidableEq α] {seen list : List α} {x : α}
    (h : firstRepeated seen list = some x) :
    ∃ before after, list = before ++ x :: after ∧ before.Nodup ∧ (∀ y ∈ before, y ∉ seen) ∧
      (x ∈ before ∨ x ∈ seen) := by
  induction list generalizing seen with
  | nil => cases h
  | cons y rest ih =>
    rw [firstRepeated] at h
    split_ifs at h with hy
    · obtain rfl := Option.some.inj h
      exact ⟨[], rest, rfl, List.nodup_nil, by simp, Or.inr hy⟩
    · obtain ⟨before, after, rfl, hnodup, hfresh, hx⟩ := ih h
      have hnew : y ∉ before := fun hmem ↦ hfresh y hmem List.mem_cons_self
      refine ⟨y :: before, after, rfl, List.nodup_cons.mpr ⟨hnew, hnodup⟩, ?_, ?_⟩
      · intro z hz
        rcases List.mem_cons.mp hz with rfl | hz
        · exact hy
        · exact fun hseen ↦ hfresh z hz (List.mem_cons_of_mem y hseen)
      · rcases hx with hx | hx
        · exact Or.inl (List.mem_cons_of_mem y hx)
        · rcases List.mem_cons.mp hx with rfl | hx
          · exact Or.inl List.mem_cons_self
          · exact Or.inr hx

/-- No beginning is shorter than the literal of the static bundle. -/
theorem utf8ByteSize_slash_le (h : startsWithSlash literal = true) :
    "/".utf8ByteSize ≤ literal.utf8ByteSize := by
  rw [startsWithSlash, beq_iff_eq, List.head?_eq_some_iff] at h
  obtain ⟨rest, hrest⟩ := h
  have hfront : "/".toList <+: literal.toList := ⟨rest, hrest.symm⟩
  by_cases heq : "/" = literal
  · exact Nat.le_of_eq (congrArg String.utf8ByteSize heq)
  · have hlonger := utf8ByteSize_lt_of_prefix hfront heq
    exact Nat.le_of_lt hlonger

/-- Behind the probe the literals of the rules get no longer. -/
theorem pairwise_literals (hslash : ∀ literal ∈ extra, startsWithSlash literal = true) :
    (longestFirst (defaultBeginnings ++ extra) ++ ["/"]).Pairwise fun first second ↦
      second.utf8ByteSize ≤ first.utf8ByteSize := by
  rw [List.pairwise_append]
  refine ⟨pairwise_longestFirst _, List.pairwise_singleton _ _, ?_⟩
  intro first hfirst second hsecond
  rw [List.mem_singleton.mp hsecond]
  refine utf8ByteSize_slash_le ?_
  rcases List.mem_append.mp (mem_longestFirst.mp hfirst) with hdefault | hextra
  · exact startsWithSlash_defaultBeginnings first hdefault
  · exact hslash first hextra

/-- The literal that is found twice first is contested, and no contested literal is longer. -/
theorem utf8ByteSize_le_of_repeated
    (hslash : ∀ literal ∈ extra, startsWithSlash literal = true)
    (h : firstRepeated [] ((Table.rulesFor extra).map fun rule ↦ rule.pattern.literal) =
      some literal) :
    IsContested extra literal ∧
      ∀ other, IsContested extra other → other.utf8ByteSize ≤ literal.utf8ByteSize := by
  have hcount : ∀ other, (claimed extra).count other =
      ((Table.rulesFor extra).map fun rule ↦ rule.pattern.literal).count other :=
    fun other ↦ ((perm_map_literal_rulesFor extra).count_eq other).symm
  simp only [IsContested, hcount]
  rw [map_literal_rulesFor] at h ⊢
  obtain ⟨before, after, hsplit, hnodup, -, hmem⟩ := exists_of_firstRepeated h
  have hbefore : literal ∈ before := by simpa using hmem
  rw [hsplit]
  constructor
  · have hfirst := List.count_pos_iff.mpr hbefore
    rw [List.count_append, List.count_cons_self]
    omega
  · intro other hother
    -- Nothing repeats in front of the literal, so a contested literal stands there or behind.
    have hbehind : other ∈ literal :: after := by
      have honce := List.nodup_iff_count_le_one.mp hnodup other
      rw [List.count_append] at hother
      exact List.count_pos_iff.mp (by omega)
    obtain ⟨front, hfront⟩ : ∃ front, before = probePath :: front := by
      cases before with
      | nil => exact absurd hbefore List.not_mem_nil
      | cons first front =>
        rw [List.cons_append, List.cons_append] at hsplit
        exact ⟨front, by rw [(List.cons.inj hsplit).1]⟩
    rw [hfront, List.cons_append, List.cons_append] at hsplit
    have hordered := pairwise_literals hslash
    rw [(List.cons.inj hsplit).2, List.pairwise_append, List.pairwise_cons] at hordered
    rcases List.mem_cons.mp hbehind with rfl | hafter
    · exact Nat.le_refl _
    · exact hordered.2.1.1 other hafter

/-! ### Acceptance and refusal -/

/-- The table is refused for a beginning without a slash exactly when it is the first such one. -/
theorem ofBeginnings_eq_withoutSlash_iff :
    Table.ofBeginnings extra = .error (.withoutSlash literal) ↔
      ∃ before after, extra = before ++ literal :: after ∧
        (∀ other ∈ before, startsWithSlash other = true) ∧ startsWithSlash literal = false := by
  have hfind : Table.ofBeginnings extra = .error (.withoutSlash literal) ↔
      (extra.find? fun literal ↦ !startsWithSlash literal) = some literal := by
    rw [Table.ofBeginnings]
    cases extra.find? fun literal ↦ !startsWithSlash literal with
    | some found => simp
    | none => cases hrepeated : firstRepeated [] ((Table.rulesFor extra).map fun rule ↦
        rule.pattern.literal) <;> simp [hrepeated]
  rw [hfind, List.find?_eq_some_iff_append]
  constructor
  · rintro ⟨hliteral, before, after, hsplit, hbefore⟩
    exact ⟨before, after, hsplit, by simpa using hbefore, by simpa using hliteral⟩
  · rintro ⟨before, after, hsplit, hbefore, hliteral⟩
    exact ⟨by simpa using hliteral, before, after, hsplit, by simpa using hbefore⟩

/-- Where every beginning begins with a slash, what is not acceptable is refused for one of the
longest contested literals. -/
theorem exists_contested_of_not_isAcceptable
    (hslash : ∀ literal ∈ extra, startsWithSlash literal = true) (h : ¬IsAcceptable extra) :
    ∃ literal, Table.ofBeginnings extra = .error (.claimedTwice literal) ∧
      IsContested extra literal ∧
      ∀ other, IsContested extra other → other.utf8ByteSize ≤ literal.utf8ByteSize := by
  have hfind : (extra.find? fun literal ↦ !startsWithSlash literal) = none := by
    simpa using hslash
  cases hrepeated : firstRepeated [] ((Table.rulesFor extra).map fun rule ↦
      rule.pattern.literal) with
  | none =>
    have hnodup := (firstRepeated_eq_none_iff.mp hrepeated).1
    rw [(perm_map_literal_rulesFor extra).nodup_iff] at hnodup
    exact absurd (isAcceptable_iff.mpr ⟨hslash, hnodup⟩) h
  | some literal =>
    refine ⟨literal, ?_, utf8ByteSize_le_of_repeated hslash hrepeated⟩
    simp only [Table.ofBeginnings, hfind, hrepeated]

/-- A list of beginnings makes a table exactly when it is acceptable. What is refused is refused for
the first beginning without a slash, whatever is claimed twice, and else for a contested literal
that no contested literal is longer than. The rules of a table are the probe, the beginnings with
longer ones first, and the static bundle, each with a literal of its own; the default table is the
one for no further beginnings. -/
theorem ofBeginnings_iff_isAcceptable (extra : List String) :
    ((∃ table, Table.ofBeginnings extra = .ok table) ↔ IsAcceptable extra) ∧
    (∀ literal, Table.ofBeginnings extra = .error (.withoutSlash literal) ↔
      ∃ before after, extra = before ++ literal :: after ∧
        (∀ other ∈ before, startsWithSlash other = true) ∧ startsWithSlash literal = false) ∧
    ((∀ literal ∈ extra, startsWithSlash literal = true) → ¬IsAcceptable extra →
      ∃ literal, Table.ofBeginnings extra = .error (.claimedTwice literal) ∧
        IsContested extra literal ∧
        ∀ other, IsContested extra other → other.utf8ByteSize ≤ literal.utf8ByteSize) ∧
    (∀ table, Table.ofBeginnings extra = .ok table →
      (∃ sorted, table.rules = .health :: sorted.map .proxy ++ [.static] ∧
        IsLongestFirst (defaultBeginnings ++ extra) sorted) ∧
      (table.rules.map fun rule ↦ rule.pattern.literal).Nodup) ∧
    Table.ofBeginnings [] = .ok .default := by
  refine ⟨?_, fun literal ↦ ofBeginnings_eq_withoutSlash_iff, exists_contested_of_not_isAcceptable,
    ?_, ofBeginnings_nil⟩
  · simp only [isAcceptable_iff, ofBeginnings_eq_ok_iff]
    exact ⟨fun ⟨table, hslash, hnodup, _⟩ ↦ ⟨hslash, hnodup⟩,
      fun ⟨hslash, hnodup⟩ ↦ ⟨_, hslash, hnodup, rfl⟩⟩
  · intro table htable
    obtain ⟨-, hnodup, rfl⟩ := ofBeginnings_eq_ok_iff.mp htable
    exact ⟨⟨_, rfl, isLongestFirst_longestFirst _⟩,
      (perm_map_literal_rulesFor extra).nodup_iff.mpr hnodup⟩

/-- A missing slash is reported before what is claimed twice, and of two contested literals the
longer one, also where the shorter one is that of the static bundle. -/
theorem ofBeginnings_of_faults :
    Table.ofBeginnings ["/docs", "/docs", "docs", "api"] = .error (.withoutSlash "docs") ∧
    Table.ofBeginnings ["/", "/docs/v1", "/docs", "/docs/v1"] =
      .error (.claimedTwice "/docs/v1") := by
  constructor
  · rw [(ofBeginnings_iff_isAcceptable _).2.1]
    exact ⟨["/docs", "/docs"], ["api"], rfl, by decide, by decide⟩
  · have hfault : ¬IsAcceptable ["/", "/docs/v1", "/docs", "/docs/v1"] := fun h ↦
      absurd h.nodup (by decide)
    obtain ⟨literal, herror, hcontested, hlongest⟩ :=
      (ofBeginnings_iff_isAcceptable ["/", "/docs/v1", "/docs", "/docs/v1"]).2.2.1
        (by decide) hfault
    have honly : ∀ other ∈ claimed ["/", "/docs/v1", "/docs", "/docs/v1"],
        1 < (claimed ["/", "/docs/v1", "/docs", "/docs/v1"]).count other →
          "/docs/v1".utf8ByteSize ≤ other.utf8ByteSize → other = "/docs/v1" := by
      decide
    have hmem : literal ∈ claimed ["/", "/docs/v1", "/docs", "/docs/v1"] :=
      List.count_pos_iff.mp (Nat.lt_trans Nat.zero_lt_one hcontested)
    have hdocs : IsContested ["/", "/docs/v1", "/docs", "/docs/v1"] "/docs/v1" := by
      unfold IsContested
      decide
    rw [herror, honly literal hmem hcontested (hlongest "/docs/v1" hdocs)]

end WebGateway.Routing
