import WebGateway.Proofs.Http.FieldText
import WebGateway.Proofs.Results
import WebGateway.Proofs.Text.Escapes
import WebGateway.Url.Basic

/-!
# The parts of a URL that was read

The host of a URL was read as a host, its path was followed from the root, and its query was escaped
(`exists_of_parse_eq_some`). A path begins with a slash, and paths and queries are made of escapes
and of the characters that need none (`exists_toList_pathOf`, `mem_queryOf`).
-/

set_option autoImplicit false
set_option relaxedAutoImplicit false

namespace WebGateway.Url

open Text.Percent (encode escapeChars mem_encode)

/-! ### Reading -/

theorem exists_of_hostAndPort {scheme : WebScheme} {authority : List Char} {host : Option Host}
    {port : Option UInt16} (h : hostAndPort (.web scheme) authority = .ok (host, port)) :
    ∃ name found, Host.parse name = .ok found ∧ host = some found := by
  unfold hostAndPort at h
  generalize hostPart false authority = parts at h
  obtain ⟨name, behind⟩ := parts
  dsimp only at h
  split at h
  · cases h
  · obtain ⟨read, hread, h⟩ := exists_of_bind_eq_ok h
    obtain ⟨found, hfound, rfl⟩ := exists_of_map_eq_ok hread
    refine ⟨name, found, hfound, ?_⟩
    cases behind with
    | nil =>
      cases h
      rfl
    | cons colon digits =>
      obtain ⟨given, -, h⟩ := exists_of_bind_eq_ok h
      cases h
      rfl

theorem exists_of_authorityOf {scheme : WebScheme} {text rest : List Char} {host : Option Host}
    {port : Option UInt16} (h : authorityOf (.web scheme) text = .ok ((host, port), rest)) :
    ∃ name found, Host.parse name = .ok found ∧ host = some found := by
  rw [authorityOf] at h
  split at h
  · obtain ⟨read, hread, h⟩ := exists_of_bind_eq_ok h
    cases h
    exact exists_of_hostAndPort hread
  · split at h
    · cases h
    · obtain ⟨read, hread, h⟩ := exists_of_bind_eq_ok h
      cases h
      exact exists_of_hostAndPort hread

/-- The host, the path and the query of a URL are what its text writes there. -/
theorem exists_of_parse_eq_some {text : String} {url : WebUrl} (h : parse text = .ok (some url)) :
    ∃ name path query, Host.parse name = .ok url.host ∧ url.path = pathOf path ∧
      url.query = queryOf query := by
  unfold parse at h
  split at h
  · cases h
  split at h
  · obtain ⟨found, hfound, hurl⟩ := exists_of_map_eq_ok h
    cases hurl
    obtain ⟨⟨⟨host, port⟩, rest⟩, hread, hparts⟩ := exists_of_bind_eq_ok hfound
    obtain ⟨name, host, hhost, rfl⟩ := exists_of_authorityOf hread
    cases hparts
    exact ⟨name, _, _, hhost, rfl, rfl⟩
  · obtain ⟨_, -, hnone⟩ := exists_of_map_eq_ok h
    cases hnone
  · obtain ⟨_, -, hnone⟩ := exists_of_map_eq_ok h
    cases hnone
  · obtain ⟨_, -, hnone⟩ := exists_of_map_eq_ok h
    cases hnone

/-! ### Paths -/

theorem mem_of_mem_goUp {directory : List (List Char)} {segment : List Char}
    (h : segment ∈ goUp directory) : segment ∈ directory := by
  cases directory with
  | nil => exact h
  | cons top below =>
    rw [goUp] at h
    split at h
    · exact h
    · exact List.mem_cons_of_mem top h

/-- Following segments brings up no other segments than these and the empty one. -/
theorem mem_of_mem_follow {directory segments : List (List Char)} {segment : List Char}
    (h : segment ∈ follow directory segments) :
    segment = [] ∨ segment ∈ directory ∨ segment ∈ segments := by
  fun_induction follow directory segments with
  | case1 directory => exact Or.inr (Or.inl h)
  | case2 directory last hparent =>
    rcases List.mem_cons.mp h with rfl | hup
    · exact Or.inl rfl
    · exact Or.inr (Or.inl (mem_of_mem_goUp hup))
  | case3 directory last hparent hhere =>
    rcases List.mem_cons.mp h with rfl | hdirectory
    · exact Or.inl rfl
    · exact Or.inr (Or.inl hdirectory)
  | case4 directory last hparent hhere =>
    rcases List.mem_cons.mp h with rfl | hdirectory
    · exact Or.inr (Or.inr List.mem_cons_self)
    · exact Or.inr (Or.inl hdirectory)
  | case5 directory first rest hrest hparent ih =>
    rcases ih h with rfl | hup | hlater
    · exact Or.inl rfl
    · exact Or.inr (Or.inl (mem_of_mem_goUp hup))
    · exact Or.inr (Or.inr (List.mem_cons_of_mem first hlater))
  | case6 directory first rest hrest hparent hhere ih =>
    rcases ih h with rfl | hdirectory | hlater
    · exact Or.inl rfl
    · exact Or.inr (Or.inl hdirectory)
    · exact Or.inr (Or.inr (List.mem_cons_of_mem first hlater))
  | case7 directory first rest hrest hparent hhere ih =>
    rcases ih h with rfl | hbelow | hlater
    · exact Or.inl rfl
    · rcases List.mem_cons.mp hbelow with rfl | hdirectory
      · exact Or.inr (Or.inr List.mem_cons_self)
      · exact Or.inr (Or.inl hdirectory)
    · exact Or.inr (Or.inr (List.mem_cons_of_mem first hlater))

/-- A path is a slash with slashes, escapes and characters that need no escape behind it. -/
theorem exists_toList_pathOf (text : List Char) :
    ∃ rest, (pathOf text).toList = '/' :: rest ∧
      ∀ c ∈ rest, c = '/' ∨ c ∈ escapeChars ∨ isEscapedInPath c = false := by
  refine ⟨_, String.toList_ofList, ?_⟩
  intro c hc
  rcases Http.Method.mem_or_mem_of_mem_intercalate hc with hslash | ⟨segment, hsegment, hmem⟩
  · exact Or.inl (List.mem_singleton.mp hslash)
  · rcases mem_of_mem_follow (List.mem_reverse.mp hsegment) with rfl | hroot | hgiven
    · exact absurd hmem List.not_mem_nil
    · exact absurd hroot List.not_mem_nil
    · obtain ⟨written, -, rfl⟩ := List.mem_map.mp hgiven
      exact Or.inr ((mem_encode hmem).imp_right And.right)

/-- A query is made of escapes and of characters that need none. -/
theorem mem_queryOf {text : List Char} {query : String} (h : queryOf text = some query) {c : Char}
    (hc : c ∈ query.toList) : c ∈ escapeChars ∨ isEscapedInQuery c = false := by
  unfold queryOf at h
  split at h
  · cases h
    rw [String.toList_ofList] at hc
    exact (mem_encode hc).imp_right And.right
  · cases h

end WebGateway.Url
