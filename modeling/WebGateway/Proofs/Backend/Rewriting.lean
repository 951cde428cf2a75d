import WebGateway.Backend.RequestTarget
import WebGateway.Proofs.Backend.Authority
import WebGateway.Proofs.Text.Trim
import WebGateway.Routing.Table

/-!
# Request targets that were rewritten

The path and the query of a forwarded request are put together as one text and read again. What the
configuration brings to it is of the right characters (`isPlain_joined`), so the text is split where
it was joined: a forwarded request keeps the path and the query of the request behind those of the
API server (`IsRewritten`), and they can be told from what is sent (`isRewritten_of_parse`).
-/

set_option autoImplicit false
set_option relaxedAutoImplicit false

namespace WebGateway.Backend

open Http (Uri maxUriSize)
open Http.Uri (IsPlain isPathChar isQueryChar)
open Routing (startsWithSlash)
open Text.Percent (escapeChars)

/-! ### Characters of the configuration -/

/-- What an escaped text is made of may stand where the characters of escapes may, and all ASCII
characters that are not escaped. -/
theorem of_written {escaped test : Char → Bool} (hescapes : escapeChars.all test = true)
    (hascii : ∀ point < 128, escaped (Char.ofNat point) = false → test (Char.ofNat point) = true)
    (hother : ∀ c : Char, 128 ≤ c.toNat → escaped c = true) {c : Char}
    (h : c ∈ escapeChars ∨ escaped c = false) : test c = true := by
  rcases h with hescape | hplain
  · exact List.all_eq_true.mp hescapes c hescape
  · revert hplain
    refine Text.forall_of_ascii hascii ?_ c
    intro c hc hplain
    rw [hother c hc] at hplain
    cases hplain

theorem isPathChar_of_written {c : Char} :
    c ∈ escapeChars ∨ Url.isEscapedInPath c = false → isPathChar c = true := by
  refine of_written (by decide) (by decide) ?_
  intro c hc
  have hlarge : 0x7F ≤ c.toNat := by omega
  simp [Url.isEscapedInPath, hlarge]

theorem isQueryChar_of_written {c : Char} :
    c ∈ escapeChars ∨ Url.isEscapedInQuery c = false → isQueryChar c = true := by
  refine of_written (by decide) (by decide) ?_
  intro c hc
  have hlarge : 0x7F ≤ c.toNat := by omega
  simp [Url.isEscapedInQuery, hlarge]

namespace Target

section Parsed

variable {text : String} {target : Target} (h : parse text = .ok target)

include h

theorem exists_basePath_eq : ∃ path, target.basePath = trimPath (Url.pathOf path) := by
  obtain ⟨url, hurl, rfl⟩ := exists_url_of_parse h
  obtain ⟨name, path, query, -, hpath, -⟩ := Url.exists_of_parse_eq_some hurl
  exact ⟨path, by rw [← hpath]; rfl⟩

theorem isPathChar_of_mem_basePath {c : Char} (hc : c ∈ target.basePath.toList) :
    isPathChar c = true := by
  obtain ⟨path, hpath⟩ := exists_basePath_eq h
  obtain ⟨rest, hrest, hall⟩ := Url.exists_toList_pathOf path
  rw [hpath, trimPath, String.toList_ofList, hrest] at hc
  rcases List.mem_cons.mp ((List.rdropWhile_prefix _ _).subset hc) with rfl | hmem
  · decide
  · rcases hall c hmem with rfl | hwritten
    · decide
    · exact isPathChar_of_written hwritten

theorem isQueryChar_of_mem_query {query : String} (hquery : target.query = some query) {c : Char}
    (hc : c ∈ query.toList) : isQueryChar c = true := by
  obtain ⟨url, hurl, rfl⟩ := exists_url_of_parse h
  obtain ⟨name, path, written, -, -, hwritten⟩ := Url.exists_of_parse_eq_some hurl
  exact isQueryChar_of_written (Url.mem_queryOf (hwritten.symm.trans hquery) hc)

/-- The path of the API server is empty or begins with a slash. -/
theorem basePath_eq_empty_or_startsWithSlash :
    target.basePath = "" ∨ startsWithSlash target.basePath = true := by
  obtain ⟨path, hpath⟩ := exists_basePath_eq h
  obtain ⟨rest, hrest, -⟩ := Url.exists_toList_pathOf path
  have hprefix := List.rdropWhile_prefix (· == '/') ('/' :: rest)
  rw [hpath, trimPath, hrest, Text.trimRight_eq_rdropWhile]
  rcases List.prefix_cons_iff.mp hprefix with hnil | ⟨behind, hbehind, -⟩
  · exact Or.inl (by rw [hnil])
  · exact Or.inr (by rw [startsWithSlash, String.toList_ofList, hbehind]; rfl)

/-- The path of the API server does not end with a slash. -/
theorem getLast?_basePath_ne : target.basePath.toList.getLast? ≠ some '/' := by
  obtain ⟨path, hpath⟩ := exists_basePath_eq h
  rw [hpath, trimPath, String.toList_ofList]
  intro hlast
  have hslash := Text.eq_false_of_getLast?_trimRight hlast
  cases hslash

end Parsed

/-! ### The joined target -/

/-- The path and the query of a forwarded request before they are read again. -/
def joined (target : Target) (uri : Uri) : Uri :=
  ⟨none, none, target.basePath ++ uri.path, queryBehind target.query uri.query⟩

theorem pathQuery_eq (target : Target) {uri : Uri} (hslash : startsWithSlash uri.path = true) :
    target.pathQuery uri = (target.joined uri).target := by
  have hpath : pathBehind target.basePath uri.path = target.basePath ++ uri.path :=
    if_pos (beq_iff_eq.mp hslash)
  rw [pathQuery, hpath]
  rfl

/-! ### Queries -/

theorem queryBehind_of_base_empty {base query : Option String} (h : base = none ∨ base = some "") :
    queryBehind base query = query := by
  rcases h with rfl | rfl
  · rfl
  · cases query <;> rfl

theorem queryBehind_none {base : String} (h : base ≠ "") :
    queryBehind (some base) none = some base :=
  if_neg h

theorem queryBehind_some {base : String} (h : base ≠ "") (query : String) :
    queryBehind (some base) (some query) = some (base ++ "&" ++ query) := by
  rw [queryBehind, if_neg h]

theorem empty_or_exists_base (base : Option String) :
    (base = none ∨ base = some "") ∨ ∃ text, text ≠ "" ∧ base = some text := by
  cases base with
  | none => exact Or.inl (Or.inl rfl)
  | some text =>
    by_cases hempty : text = ""
    · exact Or.inl (Or.inr (congrArg some hempty))
    · exact Or.inr ⟨text, hempty, rfl⟩

theorem mem_queryBehind {base query : Option String} {joined : String}
    (h : queryBehind base query = some joined) {c : Char} (hc : c ∈ joined.toList) :
    (∃ text, base = some text ∧ c ∈ text.toList) ∨ c = '&' ∨
      ∃ text, query = some text ∧ c ∈ text.toList := by
  rcases empty_or_exists_base base with hempty | ⟨text, hne, rfl⟩
  · rw [queryBehind_of_base_empty hempty] at h
    exact Or.inr (Or.inr ⟨joined, h, hc⟩)
  · cases query with
    | none =>
      rw [queryBehind_none hne] at h
      exact Or.inl ⟨joined, h, hc⟩
    | some query =>
      rw [queryBehind_some hne, Option.some.injEq] at h
      rw [← h, String.toList_append, String.toList_append] at hc
      rcases List.mem_append.mp hc with hfront | hquery
      · rcases List.mem_append.mp hfront with hbase | hmark
        · exact Or.inl ⟨text, rfl, hbase⟩
        · exact Or.inr (Or.inl (List.mem_singleton.mp hmark))
      · exact Or.inr (Or.inr ⟨query, rfl, hquery⟩)

theorem append_ampersand_ne_self (base query : String) : base ++ "&" ++ query ≠ base := by
  intro heq
  rw [String.append_assoc] at heq
  have hlist := congrArg String.toList heq
  rw [String.toList_append, List.append_right_eq_self, String.toList_append] at hlist
  cases hlist

/-- The query of a request can be told from the query that is sent. -/
theorem queryBehind_injective (base : Option String) {first second : Option String}
    (h : queryBehind base first = queryBehind base second) : first = second := by
  rcases empty_or_exists_base base with hempty | ⟨base, hne, rfl⟩
  · rwa [queryBehind_of_base_empty hempty, queryBehind_of_base_empty hempty] at h
  cases first with
  | none =>
    cases second with
    | none => rfl
    | some query =>
      rw [queryBehind_none hne, queryBehind_some hne] at h
      exact absurd (Option.some.inj h).symm (append_ampersand_ne_self base query)
  | some query =>
    cases second with
    | none =>
      rw [queryBehind_none hne, queryBehind_some hne] at h
      exact absurd (Option.some.inj h) (append_ampersand_ne_self base query)
    | some other =>
      rw [queryBehind_some hne, queryBehind_some hne, Option.some.injEq] at h
      rw [(String.append_right_inj _).mp h]

section Joined

variable {text : String} {target : Target} (h : parse text = .ok target) {uri : Uri}

include h

theorem isPlain_joined (hread : uri.IsRead) :
    IsPlain (target.joined uri).path.toList ((target.joined uri).query.map String.toList) := by
  obtain ⟨hpath, hquery⟩ := hread.isPlain
  refine ⟨?path, ?query⟩
  case path =>
    intro c hc
    rw [joined, String.toList_append] at hc
    rcases List.mem_append.mp hc with hbase | hown
    · exact isPathChar_of_mem_basePath h hbase
    · exact hpath c hown
  case query =>
    intro characters hcharacters c hc
    obtain ⟨query, hjoined, rfl⟩ := Option.map_eq_some_iff.mp hcharacters
    rcases mem_queryBehind hjoined hc with ⟨base, hbase, hmem⟩ | rfl | ⟨own, hown, hmem⟩
    · exact isQueryChar_of_mem_query h hbase hmem
    · decide
    · exact hquery own.toList (congrArg (Option.map String.toList) hown) c hmem

theorem head?_joined (hslash : startsWithSlash uri.path = true) :
    (target.joined uri).path.toList.head? = some '/' := by
  rw [joined, String.toList_append]
  rcases basePath_eq_empty_or_startsWithSlash h with hempty | hbase
  · rw [hempty]
    exact beq_iff_eq.mp hslash
  · obtain ⟨rest, hrest⟩ := List.head?_eq_some_iff.mp (beq_iff_eq.mp hbase)
    rw [hrest]
    rfl

/-- The text that is joined from the paths and the queries is split where it was joined. -/
theorem parsePathQuery_pathQuery (hread : uri.IsRead) (hslash : startsWithSlash uri.path = true)
    (hsize : (target.pathQuery uri).utf8ByteSize ≤ maxUriSize) :
    Uri.parsePathQuery (target.pathQuery uri) =
      .ok ⟨target.basePath ++ uri.path, queryBehind target.query uri.query⟩ := by
  rw [pathQuery_eq target hslash] at hsize ⊢
  exact Uri.parsePathQuery_target _ (isPlain_joined h hread) (head?_joined h hslash) hsize

end Joined

/-! ### What is sent -/

/-- The scheme and the authority of a forwarded request are those of the API server, its path is
the path of the request behind the path of the API server, and its query joins the two queries, of
which an empty one of the API server does not count. -/
structure IsRewritten (target : Target) (uri built : Uri) : Prop where
  scheme : built.scheme = some target.scheme.toText
  authority : built.authority = some target.authority
  path : built.path = target.basePath ++ uri.path
  query_of_no_base : target.query = none ∨ target.query = some "" → built.query = uri.query
  query_of_none : ∀ base, target.query = some base → base ≠ "" → uri.query = none →
    built.query = some base
  query_of_some : ∀ base query, target.query = some base → base ≠ "" → uri.query = some query →
    built.query = some (base ++ "&" ++ query)

theorem isRewritten_of_query_eq {target : Target} {uri built : Uri}
    (hscheme : built.scheme = some target.scheme.toText)
    (hauthority : built.authority = some target.authority)
    (hpath : built.path = target.basePath ++ uri.path)
    (hquery : built.query = queryBehind target.query uri.query) : target.IsRewritten uri built where
  scheme := hscheme
  authority := hauthority
  path := hpath
  query_of_no_base := fun hbase ↦ hquery.trans (queryBehind_of_base_empty hbase)
  query_of_none := by
    intro base hbase hne hnone
    rw [hquery, hbase, hnone, queryBehind_none hne]
  query_of_some := by
    intro base query hbase hne hsome
    rw [hquery, hbase, hsome, queryBehind_some hne]

theorem IsRewritten.query_eq {target : Target} {uri built : Uri}
    (h : target.IsRewritten uri built) : built.query = queryBehind target.query uri.query := by
  rcases empty_or_exists_base target.query with hempty | ⟨base, hne, hbase⟩
  · rw [h.query_of_no_base hempty, queryBehind_of_base_empty hempty]
  · cases hquery : uri.query with
    | none => rw [h.query_of_none base hbase hne hquery, hbase, queryBehind_none hne]
    | some query => rw [h.query_of_some base query hbase hne hquery, hbase, queryBehind_some hne]

theorem isRewritten_of_uriFor {text : String} {target : Target} (h : parse text = .ok target)
    {uri built : Uri} (hread : uri.IsRead) (hslash : startsWithSlash uri.path = true)
    (hbuilt : target.uriFor uri = .ok built) : target.IsRewritten uri built := by
  obtain ⟨split, -, hsplit, rfl⟩ := Uri.build_eq_ok_iff.mp hbuilt
  have hsize : (target.pathQuery uri).utf8ByteSize ≤ maxUriSize := by
    by_contra hlong
    rw [Uri.parsePathQuery_of_lt (Nat.not_le.mp hlong)] at hsplit
    cases hsplit
  rw [parsePathQuery_pathQuery h hread hslash hsize] at hsplit
  obtain rfl := Except.ok.inj hsplit
  exact isRewritten_of_query_eq rfl rfl rfl rfl

theorem IsRewritten.injective {target : Target} {first second built other : Uri}
    (hfirst : target.IsRewritten first built) (hsecond : target.IsRewritten second other)
    (hpath : built.path = other.path) (hquery : built.query = other.query) :
    first.path = second.path ∧ first.query = second.query := by
  rw [hfirst.path, hsecond.path] at hpath
  rw [hfirst.query_eq, hsecond.query_eq] at hquery
  exact ⟨(String.append_right_inj _).mp hpath, queryBehind_injective target.query hquery⟩

/-- Rewriting loses nothing: the path of the API server is empty or begins with a slash, and never
ends with one, what is built for a request is as described, and requests that are sent to the same
path and query have the same path and query. -/
theorem isRewritten_of_parse {text : String} {target : Target} (h : parse text = .ok target) :
    (target.basePath = "" ∨ startsWithSlash target.basePath = true) ∧
      target.basePath.toList.getLast? ≠ some '/' ∧
      (∀ uri built : Uri, uri.IsRead → startsWithSlash uri.path = true →
        target.uriFor uri = .ok built → target.IsRewritten uri built) ∧
      ∀ first second built other : Uri, first.IsRead → second.IsRead →
        startsWithSlash first.path = true → startsWithSlash second.path = true →
        target.uriFor first = .ok built → target.uriFor second = .ok other →
        built.path = other.path → built.query = other.query →
        first.path = second.path ∧ first.query = second.query := by
  refine ⟨basePath_eq_empty_or_startsWithSlash h, getLast?_basePath_ne h, ?rewritten, ?injective⟩
  case rewritten =>
    intro uri built hread hslash hbuilt
    exact isRewritten_of_uriFor h hread hslash hbuilt
  case injective =>
    intro first second built other hfirst hsecond hslash hslash' hbuilt hother hpath hquery
    have hrewritten := isRewritten_of_uriFor h hfirst hslash hbuilt
    exact hrewritten.injective (isRewritten_of_uriFor h hsecond hslash' hother) hpath hquery

/-- A server behind a path, with a query of its own. -/
def tenantServer : Target :=
  ⟨.http, "10.0.0.2", 8080, "/sbc", some "tenant=a"⟩

theorem parse_tenantServer : parse "http://10.0.0.2:8080/sbc/?tenant=a" = .ok tenantServer :=
  toOption_eq_some_iff.mp (by decide +kernel)

/-- An empty query of a request is sent on as one, with escapes and raw text in the path. -/
theorem isRewritten_tenantServer :
    ∃ uri built : Uri, Uri.parse "/libreapi/%2e/é?" = .ok uri ∧
      tenantServer.uriFor uri = .ok built ∧ tenantServer.IsRewritten uri built ∧
      built = ⟨some "http", some "10.0.0.2:8080", "/sbc/libreapi/%2e/é", some "tenant=a&"⟩ := by
  have huri : Uri.parse "/libreapi/%2e/é?" = .ok ⟨none, none, "/libreapi/%2e/é", some ""⟩ :=
    toOption_eq_some_iff.mp (by decide +kernel)
  have hbuilt : tenantServer.uriFor ⟨none, none, "/libreapi/%2e/é", some ""⟩ =
      .ok ⟨some "http", some "10.0.0.2:8080", "/sbc/libreapi/%2e/é", some "tenant=a&"⟩ :=
    toOption_eq_some_iff.mp (by decide +kernel)
  obtain ⟨-, -, hrewritten, -⟩ := isRewritten_of_parse parse_tenantServer
  exact ⟨_, _, huri, hbuilt, hrewritten _ _ (.text huri) (by decide +kernel) hbuilt, rfl⟩

end Target

end WebGateway.Backend
