import Mathlib.Data.List.Nodup
import WebGateway.Proofs.Http.FieldText
import WebGateway.Routing.Table

/-!
# What a routing table decides

A table is a sorted list of rules that is read from the front, and yet its decision depends only on
which path beginnings it was built from. `Decision.ofBeginnings` is that decision without any order:
the probe path first, then every path behind a proxied beginning, then the static bundle. The proof
compares the two through the first accepted rule (`find?_rulesFor`), which for a proxied path is the
one of the longest beginning (`eq_or_utf8ByteSize_lt_of_longestBeginning?`).

Acceptance does not depend on the order either: a list of beginnings makes a table exactly when each
begins with a slash and no literal is claimed twice (`ofBeginnings_eq_ok_iff`).
-/

set_option autoImplicit false
set_option relaxedAutoImplicit false

namespace WebGateway.Routing

open Http (Method Response)

/-- The answer that a set of proxied path beginnings calls for. -/
def Decision.ofBeginnings (beginnings : List String) (method : Method) (path : String) :
    Decision :=
  if path = probePath then
    if method = .get then .handled .health else .methodNotAllowed .health [.get]
  else if ∃ literal ∈ beginnings, literal.toList <+: path.toList then .handled .proxy
  else if method = .get ∨ method = .head then .handled .static
  else .methodNotAllowed .static [.get, .head]

/-! ### Acceptance -/

theorem firstRepeated_eq_none_iff {α : Type} [DecidableEq α] {seen list : List α} :
    firstRepeated seen list = none ↔ list.Nodup ∧ ∀ x ∈ list, x ∉ seen := by
  induction list generalizing seen with
  | nil => simp [firstRepeated]
  | cons x rest ih =>
    rw [firstRepeated]
    by_cases hx : x ∈ seen
    · simp [hx]
    · rw [if_neg hx, ih, List.nodup_cons]
      constructor
      · rintro ⟨hnodup, hfresh⟩
        have hrest : x ∉ rest := fun hmem ↦ hfresh x hmem List.mem_cons_self
        refine ⟨⟨hrest, hnodup⟩, fun other hother ↦ ?_⟩
        rcases List.mem_cons.mp hother with rfl | hother
        · exact hx
        · exact fun hseen ↦ hfresh other hother (List.mem_cons_of_mem x hseen)
      · rintro ⟨⟨hrest, hnodup⟩, hfresh⟩
        refine ⟨hnodup, fun other hother hseen ↦ ?_⟩
        rcases List.mem_cons.mp hseen with rfl | hseen
        · exact hrest hother
        · exact hfresh other (List.mem_cons_of_mem x hother) hseen

theorem perm_longestFirst (literals : List String) : (longestFirst literals).Perm literals :=
  List.mergeSort_perm literals _

@[simp]
theorem mem_longestFirst {literals : List String} {literal : String} :
    literal ∈ longestFirst literals ↔ literal ∈ literals :=
  (perm_longestFirst literals).mem_iff

theorem longer_trans (first second third : String)
    (hfirst : decide (second.utf8ByteSize ≤ first.utf8ByteSize) = true)
    (hsecond : decide (third.utf8ByteSize ≤ second.utf8ByteSize) = true) :
    decide (third.utf8ByteSize ≤ first.utf8ByteSize) = true := by
  simp only [decide_eq_true_eq] at hfirst hsecond ⊢
  exact Nat.le_trans hsecond hfirst

theorem longer_total (first second : String) :
    (decide (second.utf8ByteSize ≤ first.utf8ByteSize) ||
      decide (first.utf8ByteSize ≤ second.utf8ByteSize)) = true := by
  simp only [Bool.or_eq_true, decide_eq_true_eq]
  exact Nat.le_total _ _

theorem pairwise_longestFirst (literals : List String) :
    (longestFirst literals).Pairwise fun first second ↦
      second.utf8ByteSize ≤ first.utf8ByteSize := by
  have hsorted : (longestFirst literals).Pairwise fun first second ↦
      decide (second.utf8ByteSize ≤ first.utf8ByteSize) = true :=
    List.pairwise_mergeSort longer_trans longer_total literals
  exact hsorted.imp fun h ↦ of_decide_eq_true h

/-- The literals that a table for the given beginnings claims. -/
def claimed (extra : List String) : List String :=
  probePath :: (defaultBeginnings ++ extra) ++ ["/"]

theorem map_literal_rulesFor (extra : List String) :
    (Table.rulesFor extra).map (fun rule ↦ rule.pattern.literal) =
      probePath :: longestFirst (defaultBeginnings ++ extra) ++ ["/"] := by
  simp only [Table.rulesFor, List.map_append, List.map_cons, List.map_map, List.map_nil]
  congr 2
  exact List.map_id _

theorem perm_map_literal_rulesFor (extra : List String) :
    ((Table.rulesFor extra).map fun rule ↦ rule.pattern.literal).Perm (claimed extra) := by
  rw [map_literal_rulesFor]
  exact ((perm_longestFirst _).cons probePath).append_right ["/"]

/-- A list of beginnings makes a table exactly when each begins with a slash and no literal is
claimed twice. -/
theorem ofBeginnings_eq_ok_iff {extra : List String} {table : Table} :
    Table.ofBeginnings extra = .ok table ↔
      (∀ literal ∈ extra, startsWithSlash literal = true) ∧ (claimed extra).Nodup ∧
        table = ⟨Table.rulesFor extra⟩ := by
  rw [Table.ofBeginnings]
  cases hslash : extra.find? fun literal ↦ !startsWithSlash literal with
  | some literal =>
    have hbad := List.find?_some hslash
    have hmem := List.mem_of_find?_eq_some hslash
    simp only [Bool.not_eq_true'] at hbad
    simp only [reduceCtorEq, false_iff, not_and]
    intro hall
    rw [hall literal hmem] at hbad
    exact absurd hbad (by decide)
  | none =>
    have hall : ∀ literal ∈ extra, startsWithSlash literal = true := by
      simpa using hslash
    have hnodup := (perm_map_literal_rulesFor extra).nodup_iff
    cases hrepeated : firstRepeated [] ((Table.rulesFor extra).map fun rule ↦
        rule.pattern.literal) with
    | some literal =>
      have hnot : ¬(claimed extra).Nodup := by
        rw [← hnodup]
        intro h
        rw [firstRepeated_eq_none_iff.mpr ⟨h, by simp⟩] at hrepeated
        exact absurd hrepeated (by simp)
      simp [hrepeated, hnot]
    | none =>
      have hclaimed := hnodup.mp (firstRepeated_eq_none_iff.mp hrepeated).1
      simp only [hrepeated, Except.ok.injEq]
      exact ⟨fun h ↦ ⟨hall, hclaimed, h.symm⟩, fun h ↦ h.2.2.symm⟩

/-- The table of the default beginnings is the one for no further beginnings. -/
theorem ofBeginnings_nil : Table.ofBeginnings [] = .ok .default :=
  ofBeginnings_eq_ok_iff.mpr ⟨by simp, by decide, rfl⟩

theorem perm_claimed {first second : List String} (h : first.Perm second) :
    (claimed first).Perm (claimed second) :=
  ((h.append_left defaultBeginnings).cons probePath).append_right ["/"]

/-- The order of the beginnings does not matter to acceptance. -/
theorem exists_ofBeginnings_of_perm {first second : List String} (h : first.Perm second)
    {table : Table} (htable : Table.ofBeginnings first = .ok table) :
    Table.ofBeginnings second = .ok ⟨Table.rulesFor second⟩ := by
  obtain ⟨hslash, hnodup, -⟩ := ofBeginnings_eq_ok_iff.mp htable
  exact ofBeginnings_eq_ok_iff.mpr
    ⟨fun literal hliteral ↦ hslash literal (h.mem_iff.mpr hliteral),
      (perm_claimed h).nodup_iff.mp hnodup, rfl⟩

/-! ### The longest beginning -/

theorem utf8ByteSize_lt_of_prefix {short long : String} (h : short.toList <+: long.toList)
    (hne : short ≠ long) : short.utf8ByteSize < long.utf8ByteSize := by
  obtain ⟨tail, htail⟩ := h
  have hlong : long = short ++ String.ofList tail := by
    rw [← String.toList_inj, String.toList_append, String.toList_ofList, htail]
  have hsize : (String.ofList tail).utf8ByteSize ≠ 0 := by
    intro hzero
    rw [String.utf8ByteSize_eq_zero_iff] at hzero
    rw [hzero, String.append_empty] at hlong
    exact hne hlong.symm
  rw [hlong, String.utf8ByteSize_append]
  omega

/-- The first of the given texts, longer ones first, with which a path begins. -/
def longestBeginning? (literals : List String) (path : String) : Option String :=
  (longestFirst literals).find? fun literal ↦ (Pattern.beginning literal).accepts path

theorem mem_and_prefix_of_longestBeginning? {literals : List String} {path literal : String}
    (h : longestBeginning? literals path = some literal) :
    literal ∈ literals ∧ literal.toList <+: path.toList := by
  have haccepts : (Pattern.beginning literal).accepts path = true :=
    (List.find?_eq_some_iff_append.mp h).1
  exact ⟨mem_longestFirst.mp (List.mem_of_find?_eq_some h), Pattern.accepts_beginning.mp haccepts⟩

theorem longestBeginning?_eq_none_iff {literals : List String} {path : String} :
    longestBeginning? literals path = none ↔
      ¬∃ literal ∈ literals, literal.toList <+: path.toList := by
  simp [longestBeginning?]

/-- The first beginning of a path in the sorted list is longer than every other one. -/
theorem eq_or_utf8ByteSize_lt_of_longestBeginning? {literals : List String}
    {path literal other : String} (h : longestBeginning? literals path = some literal)
    (hmem : other ∈ literals) (hother : other.toList <+: path.toList) :
    other = literal ∨ other.utf8ByteSize < literal.utf8ByteSize := by
  obtain ⟨haccepts, before, after, hsplit, hbefore⟩ := List.find?_eq_some_iff_append.mp h
  have hsorted := pairwise_longestFirst literals
  rw [hsplit, List.pairwise_append, List.pairwise_cons] at hsorted
  rw [← mem_longestFirst, hsplit, List.mem_append, List.mem_cons] at hmem
  rcases hmem with hmem | rfl | hmem
  · have hrefused := hbefore other hmem
    rw [Bool.not_eq_true', Pattern.accepts_beginning.mpr hother] at hrefused
    exact absurd hrefused (by decide)
  · exact Or.inl rfl
  · have hle : other.utf8ByteSize ≤ literal.utf8ByteSize := hsorted.2.1.1 other hmem
    by_cases heq : other = literal
    · exact Or.inl heq
    · right
      rcases List.prefix_or_prefix_of_prefix hother (Pattern.accepts_beginning.mp haccepts) with
        hshorter | hlonger
      · exact utf8ByteSize_lt_of_prefix hshorter heq
      · have hlt := utf8ByteSize_lt_of_prefix hlonger fun h ↦ heq h.symm
        omega

/-! ### The first accepted rule -/

theorem find?_rulesFor (extra : List String) (path : String) :
    (Table.rulesFor extra).find? (fun rule ↦ rule.pattern.accepts path) =
      if path = probePath then some .health
      else ((longestBeginning? (defaultBeginnings ++ extra) path).map Rule.proxy).or
        (some .static) := by
  rw [Table.rulesFor, List.cons_append, List.find?_cons]
  by_cases hprobe : path = probePath
  · have haccepts : Rule.health.pattern.accepts path = true := Pattern.accepts_exact.mpr hprobe
    rw [haccepts, if_pos hprobe]
  · have hrefused : Rule.health.pattern.accepts path = false := by
      rw [← Bool.not_eq_true]
      exact fun haccepts ↦ hprobe (Pattern.accepts_exact.mp haccepts)
    rw [hrefused, if_neg hprobe, List.find?_append, List.find?_map]
    rfl

/-- The sorted table decides as its beginnings do without any order. -/
theorem resolve_rulesFor (extra : List String) (method : Method) (path : String) :
    (Table.mk (Table.rulesFor extra)).resolve method path =
      .ofBeginnings (defaultBeginnings ++ extra) method path := by
  rw [Table.resolve, find?_rulesFor, Decision.ofBeginnings]
  by_cases hprobe : path = probePath
  · by_cases hget : method = .get <;> simp [hprobe, Rule.health, Rule.takes, hget]
  · rw [if_neg hprobe, if_neg hprobe]
    cases hlongest : longestBeginning? (defaultBeginnings ++ extra) path with
    | some literal =>
      rw [if_pos ⟨literal, mem_and_prefix_of_longestBeginning? hlongest⟩]
      rfl
    | none =>
      rw [if_neg (longestBeginning?_eq_none_iff.mp hlongest)]
      by_cases hread : method = .get ∨ method = .head <;> simp [Rule.static, Rule.takes, hread]

/-- The rule of a proxied path is that of its longest beginning. -/
theorem exists_longest_of_proxied {extra : List String} {path : String} (hprobe : path ≠ probePath)
    (hproxied : ∃ literal ∈ defaultBeginnings ++ extra, literal.toList <+: path.toList) :
    ∃ literal ∈ defaultBeginnings ++ extra,
      (Table.rulesFor extra).find? (fun rule ↦ rule.pattern.accepts path) =
        some (.proxy literal) ∧
      literal.toList <+: path.toList ∧
      ∀ other ∈ defaultBeginnings ++ extra, other.toList <+: path.toList →
        other = literal ∨ other.utf8ByteSize < literal.utf8ByteSize := by
  cases hlongest : longestBeginning? (defaultBeginnings ++ extra) path with
  | none => exact absurd hproxied (longestBeginning?_eq_none_iff.mp hlongest)
  | some literal =>
    obtain ⟨hmem, hprefix⟩ := mem_and_prefix_of_longestBeginning? hlongest
    refine ⟨literal, hmem, ?_, hprefix, fun other hother hotherPrefix ↦
      eq_or_utf8ByteSize_lt_of_longestBeginning? hlongest hother hotherPrefix⟩
    rw [find?_rulesFor, if_neg hprobe, hlongest]
    rfl

/-! ### Consequences -/

/-- A path is left to the proxy, with every method, where it begins with one of the beginnings and is
not the probe path. -/
theorem Decision.ofBeginnings_eq_proxy_iff {beginnings : List String} {method : Method}
    {path : String} :
    Decision.ofBeginnings beginnings method path = .handled .proxy ↔
      path ≠ probePath ∧ ∃ literal ∈ beginnings, literal.toList <+: path.toList := by
  unfold Decision.ofBeginnings
  constructor
  · intro hproxy
    split_ifs at hproxy with hprobe hget hbeginning hread
    · cases hproxy
    · exact ⟨hprobe, hbeginning⟩
    · cases hproxy
  · rintro ⟨hprobe, hbeginning⟩
    rw [if_neg hprobe, if_pos hbeginning]

theorem Decision.ofBeginnings_perm {first second : List String} (h : first.Perm second)
    (method : Method) (path : String) :
    Decision.ofBeginnings first method path = Decision.ofBeginnings second method path := by
  simp only [Decision.ofBeginnings, h.mem_iff]

/-- A refused method comes with the complete list of the methods that are taken. -/
theorem Decision.handled_iff_mem_of_methodNotAllowed {beginnings : List String} {method : Method}
    {path : String} {handler : Handler} {allowed : List Method}
    (h : Decision.ofBeginnings beginnings method path = .methodNotAllowed handler allowed) :
    allowed ≠ [] ∧ ∀ other : Method,
      (∃ taker, Decision.ofBeginnings beginnings other path = .handled taker) ↔
        other ∈ allowed := by
  simp only [Decision.ofBeginnings] at h ⊢
  split_ifs at h with hprobe hget hproxied hread
  · obtain ⟨rfl, rfl⟩ := Decision.methodNotAllowed.inj h
    refine ⟨List.cons_ne_nil _ _, fun other ↦ ?_⟩
    by_cases hother : other = .get <;> simp [hprobe, hother]
  · obtain ⟨rfl, rfl⟩ := Decision.methodNotAllowed.inj h
    refine ⟨List.cons_ne_nil _ _, fun other ↦ ?_⟩
    by_cases hother : other = .get ∨ other = .head
    · rw [if_neg hprobe, if_neg hproxied, if_pos hother]
      simpa using hother
    · rw [if_neg hprobe, if_neg hproxied, if_neg hother]
      simpa using hother

theorem resolve_of_beginning (extra : List String) (method : Method) {literal path : String}
    (hliteral : literal ∈ defaultBeginnings ++ extra) (hpath : literal.toList <+: path.toList)
    (hprobe : path ≠ probePath) :
    (⟨Table.rulesFor extra⟩ : Table).resolve method path = .handled .proxy := by
  rw [resolve_rulesFor, Decision.ofBeginnings, if_neg hprobe, if_pos ⟨literal, hliteral, hpath⟩]

theorem startsWithSlash_defaultBeginnings :
    ∀ literal ∈ defaultBeginnings, startsWithSlash literal = true := by
  decide

/-- A proxied path begins with a slash, as its beginning does. -/
theorem startsWithSlash_of_resolve_eq_proxy {extra : List String} {table : Table}
    (htable : Table.ofBeginnings extra = .ok table) {method : Method} {path : String}
    (hproxied : table.resolve method path = .handled .proxy) : startsWithSlash path = true := by
  obtain ⟨hslash, -, rfl⟩ := ofBeginnings_eq_ok_iff.mp htable
  rw [resolve_rulesFor, Decision.ofBeginnings_eq_proxy_iff] at hproxied
  obtain ⟨-, literal, hmem, tail, htail⟩ := hproxied
  have hliteral : startsWithSlash literal = true := by
    rcases List.mem_append.mp hmem with hdefault | hextra
    · exact startsWithSlash_defaultBeginnings literal hdefault
    · exact hslash literal hextra
  rw [startsWithSlash, beq_iff_eq] at hliteral ⊢
  rw [← htail, List.head?_append, hliteral]
  rfl

/-- A table decides as the set of its beginnings does: the probe path before everything else, then
the proxied beginnings, of which the longest decides, then the static bundle. The order in which the
beginnings were given changes nothing, and a refusal names exactly the methods that are taken, also
in the `Allow` field of the response. -/
theorem resolve_eq_ofBeginnings {extra : List String} {table : Table}
    (htable : Table.ofBeginnings extra = .ok table) :
    Table.ofBeginnings [] = .ok .default ∧
    (∀ method path, table.resolve method path =
      .ofBeginnings (defaultBeginnings ++ extra) method path) ∧
    (∀ path, path ≠ probePath →
      (∃ literal ∈ defaultBeginnings ++ extra, literal.toList <+: path.toList) →
      ∃ literal ∈ defaultBeginnings ++ extra,
        table.rules.find? (fun rule ↦ rule.pattern.accepts path) = some (.proxy literal) ∧
        literal.toList <+: path.toList ∧
        ∀ other ∈ defaultBeginnings ++ extra, other.toList <+: path.toList →
          other = literal ∨ other.utf8ByteSize < literal.utf8ByteSize) ∧
    (∀ reordered, extra.Perm reordered → ∃ same, Table.ofBeginnings reordered = .ok same ∧
      ∀ method path, same.resolve method path = table.resolve method path) ∧
    (∀ method path handler allowed,
      table.resolve method path = .methodNotAllowed handler allowed →
      (∀ other, (∃ taker, table.resolve other path = .handled taker) ↔ other ∈ allowed) ∧
      ∃ value text, (Response.methodNotAllowed allowed).headers.values .allow = [value] ∧
        value.text? = some text ∧
        (Method.listedWords text.toList).map String.ofList = allowed.map Method.text) := by
  obtain ⟨-, -, rfl⟩ := ofBeginnings_eq_ok_iff.mp htable
  have hresolve := resolve_rulesFor extra
  refine ⟨ofBeginnings_nil, hresolve, fun path ↦ exists_longest_of_proxied, ?_, ?_⟩
  · intro reordered hperm
    refine ⟨_, exists_ofBeginnings_of_perm hperm htable, fun method path ↦ ?_⟩
    rw [hresolve, resolve_rulesFor]
    exact Decision.ofBeginnings_perm (hperm.symm.append_left defaultBeginnings) method path
  · intro method path handler allowed hrefused
    rw [hresolve] at hrefused
    obtain ⟨hne, htakes⟩ := Decision.handled_iff_mem_of_methodNotAllowed hrefused
    obtain ⟨value, hvalue, htext⟩ := Response.exists_allow_methodNotAllowed allowed
    refine ⟨fun other ↦ ?_, value, Method.allowText allowed, hvalue, htext, ?_⟩
    · rw [hresolve]
      exact htakes other
    · rw [Method.listedWords_allowText hne, List.map_map]
      exact List.map_congr_left fun method _ ↦ String.ofList_toList

/-- A beginning of the probe path does not take the probe, and a longer beginning decides before a
shorter one. -/
theorem resolve_nested_beginnings :
    ∃ table, Table.ofBeginnings ["/health", "/libreapi/cdr"] = .ok table ∧
      table.resolve .head "/healthcheck" = .methodNotAllowed .health [.get] ∧
      table.resolve .head "/healthy" = .handled .proxy ∧
      table.rules.find? (fun rule ↦ rule.pattern.accepts "/libreapi/cdr/1") =
        some (.proxy "/libreapi/cdr") := by
  have htable : Table.ofBeginnings ["/health", "/libreapi/cdr"] =
      .ok ⟨Table.rulesFor ["/health", "/libreapi/cdr"]⟩ :=
    ofBeginnings_eq_ok_iff.mpr ⟨by decide +kernel, by decide +kernel, rfl⟩
  obtain ⟨-, hresolve, hlongest, -⟩ := resolve_eq_ofBeginnings htable
  have hproxied : ∃ literal ∈ defaultBeginnings ++ ["/health", "/libreapi/cdr"],
      literal.toList <+: "/libreapi/cdr/1".toList := by decide +kernel
  obtain ⟨literal, hmem, hrule, -, hlonger⟩ :=
    hlongest "/libreapi/cdr/1" (by decide +kernel) hproxied
  have honly : ∀ other ∈ defaultBeginnings ++ ["/health", "/libreapi/cdr"],
      "/libreapi/cdr" = other ∨ "/libreapi/cdr".utf8ByteSize < other.utf8ByteSize →
        "/libreapi/cdr" = other := by decide +kernel
  have hliteral : "/libreapi/cdr" = literal :=
    honly literal hmem (hlonger "/libreapi/cdr" (by decide +kernel) (by decide +kernel))
  refine ⟨_, htable, ?_, ?_, hliteral ▸ hrule⟩
  · rw [hresolve]
    decide +kernel
  · rw [hresolve]
    decide +kernel

end WebGateway.Routing
