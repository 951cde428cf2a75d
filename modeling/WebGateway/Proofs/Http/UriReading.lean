import Mathlib.Data.List.TakeWhile
import WebGateway.Http.Uri
import WebGateway.Proofs.Http.FieldText
import WebGateway.Proofs.Results

/-!
# What the readers of a target accept

An authority that can be read is a text of visible ASCII, and reading it changes nothing
(`parseAuthority_eq_ok`). The authority of a target that was read can be read by itself
(`parseAuthority_of_parse`). A path and a query that are read are of their own characters, and such
a path and query are read as they stand (`IsRead.isPlain`, `parsePathQuery_target`); a text that is
too long is never read. A target is put together from parts that can each be read
(`build_eq_ok_iff`).
-/

set_option autoImplicit false
set_option relaxedAutoImplicit false

namespace WebGateway.Http.Uri

/-! ### Authorities -/

theorem isReadableChar_of_isAuthorityChar {c : Char} (hc : isAuthorityChar c = true) :
    isReadableChar c = true := by
  rw [isAuthorityChar, Bool.or_eq_true, List.contains_iff_mem] at hc
  rcases hc with hword | hsign
  · exact isReadableChar_of_isTokenChar (by rw [isTokenChar, hword, Bool.true_or])
  · have hsigns : "!$&'()*+,-.:;=@[]_~".toList.all isReadableChar = true := by decide
    exact List.all_eq_true.mp hsigns c hsign

/-- The reader stops at a character of no authority. -/
theorem step_of_not_isAuthorityChar {c : Char} (hpercent : c ≠ '%')
    (hforeign : isAuthorityChar c = false) (scan : AuthorityScan) :
    scan.step c = .error .badCharacter := by
  have hsigns : ∀ sign ∈ [':', '[', ']', '@'], c ≠ sign := by
    rintro sign hsign rfl
    have haccepted : [':', '[', ']', '@'].all isAuthorityChar = true := by decide
    rw [List.all_eq_true.mp haccepted c hsign] at hforeign
    cases hforeign
  simp [AuthorityScan.step, hforeign, hpercent, hsigns ':' (by decide), hsigns '[' (by decide),
    hsigns ']' (by decide), hsigns '@' (by decide)]

/-- A step of the reader takes the characters of an authority and the percent sign. -/
theorem eq_percent_or_isAuthorityChar_of_step_eq_ok {before after : AuthorityScan} {c : Char}
    (h : before.step c = .ok after) : c = '%' ∨ isAuthorityChar c = true := by
  by_contra hother
  obtain ⟨hpercent, hforeign⟩ := not_or.mp hother
  rw [step_of_not_isAuthorityChar hpercent (by simpa using hforeign)] at h
  cases h

/-- The authority at the front of a text ends where its characters end. -/
theorem splitAuthority_eq_ok_iff {text authority rest : List Char} :
    splitAuthority text = .ok (authority, rest) ↔
      authority = text.takeWhile (fun c ↦ !endsAuthority c) ∧
        rest = text.dropWhile (fun c ↦ !endsAuthority c) ∧
        ∃ scan : AuthorityScan, authority.foldlM AuthorityScan.step .start = .ok scan ∧
          scan.accepts = true := by
  rw [splitAuthority]
  cases hscan : (text.takeWhile fun c ↦ !endsAuthority c).foldlM AuthorityScan.step .start with
  | error cause =>
    simp only [bind, Except.bind, reduceCtorEq, false_iff, not_and]
    rintro rfl - ⟨scan, haccepted, -⟩
    rw [hscan] at haccepted
    cases haccepted
  | ok scan =>
    by_cases haccepts : scan.accepts = true
    · simp only [bind, Except.bind, haccepts, if_true, pure, Except.pure, Except.ok.injEq,
        Prod.mk.injEq]
      constructor
      · rintro ⟨rfl, rfl⟩
        exact ⟨rfl, rfl, scan, hscan, haccepts⟩
      · rintro ⟨rfl, rfl, -⟩
        exact ⟨rfl, rfl⟩
    · simp only [bind, Except.bind, haccepts, Bool.false_eq_true, if_false, reduceCtorEq, false_iff,
        not_and]
      rintro rfl - ⟨other, hother, haccepted⟩
      rw [hscan] at hother
      obtain rfl := Except.ok.inj hother
      exact haccepts haccepted

/-- An authority fills its text exactly when it is the front of the text and nothing is left. -/
theorem parseAuthority_eq_ok_iff {text authority : String} :
    parseAuthority text = .ok authority ↔
      text ≠ "" ∧ authority = text ∧ splitAuthority text.toList = .ok (text.toList, []) := by
  by_cases hempty : text = ""
  · simp [parseAuthority, hempty]
  rw [parseAuthority, if_neg hempty]
  cases hsplit : splitAuthority text.toList with
  | error cause => simp [bind, Except.bind]
  | ok parts =>
    obtain ⟨front, rest⟩ := parts
    obtain ⟨hfront, hback, -⟩ := splitAuthority_eq_ok_iff.mp hsplit
    have hwhole : front ++ rest = text.toList := by
      rw [hfront, hback, List.takeWhile_append_dropWhile]
    by_cases hrest : rest = []
    · rw [hrest, List.append_nil] at hwhole
      simp [bind, Except.bind, pure, Except.pure, hrest, hwhole, hempty, eq_comm]
    · simp [bind, Except.bind, hrest]

/-- A part of a text that is read as an authority can be read by itself. -/
theorem parseAuthority_of_splitAuthority {text authority rest : List Char}
    (h : splitAuthority text = .ok (authority, rest)) (hne : authority ≠ []) :
    parseAuthority (String.ofList authority) = .ok (String.ofList authority) := by
  obtain ⟨hfront, -, hscan⟩ := splitAuthority_eq_ok_iff.mp h
  have hall : ∀ c ∈ authority, (!endsAuthority c) = true := by
    intro c hc
    rw [hfront] at hc
    exact List.all_eq_true.mp List.all_takeWhile c hc
  refine parseAuthority_eq_ok_iff.mpr ⟨?_, rfl, ?_⟩
  · intro hempty
    rw [← String.toList_inj, String.toList_ofList] at hempty
    exact hne hempty
  · rw [String.toList_ofList, splitAuthority_eq_ok_iff]
    exact ⟨(List.takeWhile_eq_self_iff.mpr hall).symm, (List.dropWhile_eq_nil_iff.mpr hall).symm,
      hscan⟩

/-- An authority that can be read is a text of authority characters and percent signs. -/
theorem eq_percent_or_isAuthorityChar_of_parseAuthority {text authority : String}
    (h : parseAuthority text = .ok authority) {c : Char} (hc : c ∈ text.toList) :
    c = '%' ∨ isAuthorityChar c = true := by
  obtain ⟨-, -, hsplit⟩ := parseAuthority_eq_ok_iff.mp h
  obtain ⟨-, -, scan, hscan, -⟩ := splitAuthority_eq_ok_iff.mp hsplit
  obtain ⟨before, after, hstep⟩ := exists_eq_ok_of_foldlM_eq_ok hscan hc
  exact eq_percent_or_isAuthorityChar_of_step_eq_ok hstep

/-- An authority that can be read is a text of visible ASCII, and it is read as it stands. -/
theorem parseAuthority_eq_ok {text authority : String} (h : parseAuthority text = .ok authority) :
    authority = text ∧ ∀ c ∈ text.toList, isReadableChar c = true := by
  refine ⟨(parseAuthority_eq_ok_iff.mp h).2.1, fun c hc ↦ ?_⟩
  rcases eq_percent_or_isAuthorityChar_of_parseAuthority h hc with rfl | hauthority
  · decide
  · exact isReadableChar_of_isAuthorityChar hauthority

/-! ### Forms of targets -/

/-- A target that begins with a scheme or an authority is an authority alone, or has both and a path
behind them. -/
theorem parseFull_cases {text : List Char} {uri : Uri} (h : parseFull text = .ok uri) :
    (∃ front, splitAuthority text = .ok (front, []) ∧
      uri = ⟨none, some (String.ofList front), "", none⟩) ∨
    ∃ scheme behind front rest split, splitAuthority behind = .ok (front, rest) ∧ front ≠ [] ∧
      parsePathQuery (String.ofList rest) = .ok split ∧
      uri = ⟨some scheme, some (String.ofList front), split.path, split.query⟩ := by
  obtain ⟨scheme, -, h⟩ := exists_of_bind_eq_ok h
  cases scheme with
  | none =>
    obtain ⟨⟨front, rest⟩, hsplit, h⟩ := exists_of_bind_eq_ok h
    by_cases hrest : rest = []
    · simp only [hrest, if_true] at h
      cases h
      exact Or.inl ⟨front, hrest ▸ hsplit, rfl⟩
    · simp only [hrest, if_false] at h
      cases h
  | some parts =>
    obtain ⟨name, behind⟩ := parts
    by_cases hbehind : behind = []
    · simp only [hbehind, if_true] at h
      cases h
    simp only [hbehind, if_false] at h
    obtain ⟨⟨front, rest⟩, hsplit, h⟩ := exists_of_bind_eq_ok h
    by_cases hfront : front = []
    · simp only [hfront, if_true] at h
      cases h
    simp only [hfront, if_false] at h
    obtain ⟨split, hread, h⟩ := exists_of_bind_eq_ok h
    cases h
    exact Or.inr ⟨_, behind, front, rest, split, hsplit, hfront, hread, rfl⟩

/-- The four forms of a target. -/
theorem parse_cases {text : String} {uri : Uri} (h : parse text = .ok uri) :
    (∃ split, parsePathQuery text = .ok split ∧ uri = ⟨none, none, split.path, split.query⟩) ∨
      uri = ⟨none, none, "*", none⟩ ∨
      (parseAuthority text = .ok text ∧ uri = ⟨none, some text, "", none⟩) ∨
      text.toList ≠ [] ∧ parseFull text.toList = .ok uri := by
  unfold parse at h
  split at h
  · cases h
  split at h
  · cases h
  · obtain ⟨split, hread, rfl⟩ := exists_of_map_eq_ok h
    exact Or.inl ⟨split, hread, rfl⟩
  · cases h
    exact Or.inr (Or.inl rfl)
  · obtain ⟨whole, hread, rfl⟩ := exists_of_map_eq_ok h
    obtain rfl := (parseAuthority_eq_ok_iff.mp hread).2.1
    exact Or.inr (Or.inr (Or.inl ⟨hread, rfl⟩))
  · next hne _ _ _ => exact Or.inr (Or.inr (Or.inr ⟨fun hnil ↦ hne hnil, h⟩))

/-- The authority of a target that was read can be read by itself. -/
theorem parseAuthority_of_parse {text authority : String} {uri : Uri} (h : parse text = .ok uri)
    (hauthority : uri.authority = some authority) :
    parseAuthority authority = .ok authority := by
  rcases parse_cases h with ⟨split, -, rfl⟩ | rfl | ⟨hread, rfl⟩ | ⟨hne, hfull⟩
  · cases hauthority
  · cases hauthority
  · cases hauthority
    exact hread
  · rcases parseFull_cases hfull with
      ⟨front, hsplit, rfl⟩ | ⟨_, _, front, _, _, hsplit, hfront, -, rfl⟩
    · cases hauthority
      refine parseAuthority_of_splitAuthority hsplit fun hfront ↦ hne ?_
      obtain ⟨htake, hdrop, -⟩ := splitAuthority_eq_ok_iff.mp hsplit
      rw [← text.toList.takeWhile_append_dropWhile (p := fun c ↦ !endsAuthority c), ← htake,
        ← hdrop, hfront]
      rfl
    · cases hauthority
      exact parseAuthority_of_splitAuthority hsplit hfront

/-! ### Paths and queries -/

theorem parsePathQuery_of_lt {text : String} (h : maxUriSize < text.utf8ByteSize) :
    parsePathQuery text = .error .tooLong :=
  if_pos h

/-- A path and a query of their own characters only. -/
structure IsPlain (path : List Char) (query : Option (List Char)) : Prop where
  path : ∀ c ∈ path, isPathChar c = true
  query : ∀ text, query = some text → ∀ c ∈ text, isQueryChar c = true

theorem isPlain_of_isPathChar {path : List Char} (h : ∀ c ∈ path, isPathChar c = true) :
    IsPlain path none :=
  ⟨h, fun _ hquery ↦ nomatch hquery⟩

theorem queryOf_of_isQueryChar {query : List Char} (h : ∀ c ∈ query, isQueryChar c = true) :
    queryOf query = .ok query := by
  induction query with
  | nil => rfl
  | cons c rest ih =>
    have hc := h c List.mem_cons_self
    have hfragment : c ≠ '#' := by
      rintro rfl
      exact absurd hc (by decide)
    rw [queryOf, if_neg hfragment, if_pos hc,
      ih fun other hother ↦ h other (List.mem_cons_of_mem c hother)]
    rfl

/-- The characters of a path are read as they stand, whatever follows them. -/
theorem pathQueryOf_append {path : List Char} (h : ∀ c ∈ path, isPathChar c = true)
    (rest : List Char) :
    pathQueryOf (path ++ rest) =
      (pathQueryOf rest).map fun (behind, query) ↦ (path ++ behind, query) := by
  induction path with
  | nil => cases hrest : pathQueryOf rest <;> simp [hrest, Except.map]
  | cons c path ih =>
    have hc := h c List.mem_cons_self
    have hquery : c ≠ '?' := by
      rintro rfl
      exact absurd hc (by decide)
    have hfragment : c ≠ '#' := by
      rintro rfl
      exact absurd hc (by decide)
    rw [List.cons_append, pathQueryOf, if_neg hquery, if_neg hfragment, if_pos hc,
      ih fun other hother ↦ h other (List.mem_cons_of_mem c hother)]
    cases pathQueryOf rest <;> rfl

theorem pathQueryOf_of_isPathChar {path : List Char} (h : ∀ c ∈ path, isPathChar c = true) :
    pathQueryOf path = .ok (path, none) := by
  have happend := pathQueryOf_append h []
  simpa only [List.append_nil, pathQueryOf, Except.map] using happend

/-- A path and a query with the mark between them are found again. -/
theorem pathQueryOf_append_query {path query : List Char} (h : IsPlain path (some query)) :
    pathQueryOf (path ++ '?' :: query) = .ok (path, some query) := by
  rw [pathQueryOf_append h.path, pathQueryOf, if_pos rfl,
    queryOf_of_isQueryChar (h.query query rfl)]
  simp only [Except.map, List.append_nil]

theorem isQueryChar_of_queryOf {text query : List Char} (h : queryOf text = .ok query) :
    ∀ c ∈ query, isQueryChar c = true := by
  induction text generalizing query with
  | nil =>
    cases h
    exact List.forall_mem_nil _
  | cons c rest ih =>
    rw [queryOf] at h
    split at h
    · cases h
      exact List.forall_mem_nil _
    · split at h
      · next hc =>
        obtain ⟨behind, hbehind, rfl⟩ := exists_of_map_eq_ok h
        exact List.forall_mem_cons.mpr ⟨hc, ih hbehind⟩
      · cases h

theorem isPlain_of_pathQueryOf {text path : List Char} {query : Option (List Char)}
    (h : pathQueryOf text = .ok (path, query)) : IsPlain path query := by
  induction text generalizing path with
  | nil =>
    cases h
    exact isPlain_of_isPathChar (List.forall_mem_nil _)
  | cons c rest ih =>
    rw [pathQueryOf] at h
    split at h
    · obtain ⟨behind, hbehind, hparts⟩ := exists_of_map_eq_ok h
      cases hparts
      refine ⟨List.forall_mem_nil _, ?_⟩
      rintro _ ⟨rfl⟩
      exact isQueryChar_of_queryOf hbehind
    · split at h
      · cases h
        exact isPlain_of_isPathChar (List.forall_mem_nil _)
      · split at h
        · next hc =>
          obtain ⟨⟨behind, found⟩, hrest, hparts⟩ := exists_of_map_eq_ok h
          cases hparts
          exact ⟨List.forall_mem_cons.mpr ⟨hc, (ih hrest).path⟩, (ih hrest).query⟩
        · cases h

theorem isPlain_of_parsePathQuery {text : String} {split : PathQuery}
    (h : parsePathQuery text = .ok split) :
    IsPlain split.path.toList (split.query.map String.toList) := by
  have hroot : "/".toList.all isPathChar = true := by decide
  unfold parsePathQuery at h
  split at h
  · cases h
  split at h
  · cases h
    exact isPlain_of_isPathChar (List.all_eq_true.mp hroot)
  · split at h
    · obtain ⟨⟨path, query⟩, hread, rfl⟩ := exists_of_map_eq_ok h
      obtain ⟨hpath, hquery⟩ := isPlain_of_pathQueryOf hread
      have hsame : (query.map String.ofList).map String.toList = query := by
        cases query <;> simp
      refine ⟨?_, ?_⟩
      · show ∀ c ∈ (if path = [] then "/" else String.ofList path).toList, isPathChar c = true
        split
        · exact List.all_eq_true.mp hroot
        · rwa [String.toList_ofList]
      · rwa [hsame]
    · cases h

/-- What begins with a slash is read as its own path and query. -/
theorem parsePathQuery_target (uri : Uri)
    (hplain : IsPlain uri.path.toList (uri.query.map String.toList))
    (hslash : uri.path.toList.head? = some '/') (hsize : uri.target.utf8ByteSize ≤ maxUriSize) :
    parsePathQuery uri.target = .ok ⟨uri.path, uri.query⟩ := by
  obtain ⟨scheme, authority, path, query⟩ := uri
  obtain ⟨rest, hpath⟩ := List.head?_eq_some_iff.mp hslash
  have hwhole : String.ofList ('/' :: rest) = path := by rw [← hpath, String.ofList_toList]
  rw [parsePathQuery, if_neg (Nat.not_lt.mpr hsize)]
  simp only [hpath] at hplain
  cases query with
  | none =>
    have hread := pathQueryOf_of_isPathChar hplain.path
    simp only [target, hpath, hread]
    simp [Except.map, hwhole]
  | some query =>
    have hread := pathQueryOf_append_query hplain
    have htext : (path ++ "?" ++ query).toList = '/' :: (rest ++ '?' :: query.toList) := by
      simp [hpath]
    rw [List.cons_append] at hread
    simp only [target, htext, hread]
    simp [Except.map, hwhole]

/-- A path that is not too long and has only path characters is read as it stands. -/
theorem parse_of_isPathChar {path : String} {rest : List Char} (hpath : path.toList = '/' :: rest)
    (hsize : path.utf8ByteSize ≤ maxUriSize) (h : ∀ c ∈ rest, isPathChar c = true) :
    parse path = .ok ⟨none, none, path, none⟩ := by
  have hplain : IsPlain path.toList none := by
    rw [hpath]
    exact isPlain_of_isPathChar (List.forall_mem_cons.mpr ⟨by decide, h⟩)
  have hslash : path.toList.head? = some '/' := by rw [hpath, List.head?_cons]
  have hread : parsePathQuery path = .ok ⟨path, none⟩ :=
    parsePathQuery_target ⟨none, none, path, none⟩ hplain hslash hsize
  rw [parse, if_neg (Nat.not_lt.mpr hsize), hpath, hread]
  rfl

/-! ### Targets that are put together -/

theorem build_eq_ok_iff {scheme authority pathQuery : String} {uri : Uri} :
    build scheme authority pathQuery = .ok uri ↔
      ∃ split, parseAuthority authority = .ok authority ∧ parsePathQuery pathQuery = .ok split ∧
        uri = ⟨some scheme, some authority, split.path, split.query⟩ := by
  rw [build]
  cases hauthority : parseAuthority authority with
  | error cause => simp [bind, Except.bind]
  | ok read =>
    obtain ⟨rfl, -⟩ := parseAuthority_eq_ok hauthority
    cases hpath : parsePathQuery pathQuery with
    | error cause => simp [bind, Except.bind]
    | ok split =>
      simp [bind, Except.bind, pure, Except.pure, eq_comm]

/-! ### Targets of either origin -/

/-- A target that there can be: one that was read from a text or put together from its parts. -/
inductive IsRead : Uri → Prop where
  | text {text : String} {uri : Uri} (h : parse text = .ok uri) : IsRead uri
  | parts {scheme authority pathQuery : String} {uri : Uri}
      (h : build scheme authority pathQuery = .ok uri) : IsRead uri

theorem isPlain_of_parse {text : String} {uri : Uri} (h : parse text = .ok uri) :
    IsPlain uri.path.toList (uri.query.map String.toList) := by
  have hempty : IsPlain "".toList none := isPlain_of_isPathChar (List.forall_mem_nil _)
  have hasterisk : "*".toList.all isPathChar = true := by decide
  rcases parse_cases h with ⟨split, hread, rfl⟩ | rfl | ⟨-, rfl⟩ | ⟨-, hfull⟩
  · exact isPlain_of_parsePathQuery hread
  · exact isPlain_of_isPathChar (List.all_eq_true.mp hasterisk)
  · exact hempty
  · rcases parseFull_cases hfull with ⟨_, -, rfl⟩ | ⟨_, _, _, _, split, -, -, hread, rfl⟩
    · exact hempty
    · exact isPlain_of_parsePathQuery hread

/-- The path of a target has no mark in front of a query, and its query none of a fragment. -/
theorem IsRead.isPlain {uri : Uri} (h : uri.IsRead) :
    IsPlain uri.path.toList (uri.query.map String.toList) := by
  cases h with
  | text h => exact isPlain_of_parse h
  | parts h =>
    obtain ⟨split, -, hread, rfl⟩ := build_eq_ok_iff.mp h
    exact isPlain_of_parsePathQuery hread

end WebGateway.Http.Uri
