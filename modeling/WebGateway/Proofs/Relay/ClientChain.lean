import WebGateway.Proofs.Http.FieldText
import WebGateway.Proofs.Net.AddressText
import WebGateway.Proofs.Text.Trim
import WebGateway.Relay.Forwarded

/-!
# The chain of clients

When a client is recorded, its address is put behind the elements of the first `X-Forwarded-For`
value, and the result takes the place of all values (`exists_chain_recordClient`). The chain is
therefore kept exactly as long as the later values record nobody: a client that spreads its chain
over several lines loses all but the first of them (`forwardedChain_recordForwarded`).
-/

set_option autoImplicit false
set_option relaxedAutoImplicit false

namespace WebGateway.Relay

open Http (HeaderValue Headers)
open Net (IpAddress)

/-- The elements of a comma-separated list that are not empty. -/
def hops (text : String) : List String :=
  (listElements text).filter fun element ↦ element ≠ ""

/-- The hops that one value records; an unreadable value records none. -/
def valueHops (value : HeaderValue) : List String :=
  match value.text? with
  | some text => hops text
  | none => []

/-- The hops that the first `X-Forwarded-For` value records. -/
def firstHops (headers : Headers) : List String :=
  (headers.get? .xForwardedFor).toList.flatMap valueHops

/-- The hops that the later `X-Forwarded-For` values record. -/
def laterHops (headers : Headers) : List String :=
  (headers.values .xForwardedFor).tail.flatMap valueHops

theorem forwardedChain_eq_append (headers : Headers) :
    forwardedChain headers = firstHops headers ++ laterHops headers := by
  have hvalues : forwardedChain headers = (headers.values .xForwardedFor).flatMap valueHops := rfl
  rw [hvalues, firstHops, laterHops, Headers.get?, ← List.flatMap_append]
  cases headers.values .xForwardedFor <;> rfl

/-! ### Lists that are continued -/

theorem listElements_append_comma (first second : String) :
    listElements (first ++ "," ++ second) = listElements first ++ listElements second := by
  have htext : (first ++ "," ++ second).toList = first.toList ++ ',' :: second.toList := by
    simp [String.toList_append]
  rw [listElements, htext, List.splitOn_append_cons_self, List.map_append, listElements,
    listElements]

/-- A blank text has no element but the empty one. -/
theorem hops_of_blank {text : String} (h : Text.trimEnds Text.isBlank text.toList = []) :
    hops text = [] := by
  have hblank := Text.trimEnds_eq_nil_iff.mp h
  have hcomma : ',' ∉ text.toList := fun hmem ↦ absurd (hblank ',' hmem) (by decide)
  rw [hops, listElements, List.splitOn_eq_singleton hcomma, List.map_singleton, h]
  rfl

/-- An address is an element of its own, behind blanks as well. -/
theorem listElements_append_toText {blanks : String}
    (hblanks : ∀ c ∈ blanks.toList, Text.isBlank c = true) (client : IpAddress) :
    listElements (blanks ++ client.toText) = [client.toText] := by
  have haddress : ∀ c ∈ client.toText.toList, Text.isBlank c = false := fun c hc ↦
    Net.isBlank_of_isAddressChar (IpAddress.isAddressChar_of_mem_toText hc)
  have hcomma : ',' ∉ (blanks ++ client.toText).toList := by
    rw [String.toList_append, List.mem_append]
    rintro (hmem | hmem)
    · exact absurd (hblanks ',' hmem) (by decide)
    · exact absurd (IpAddress.isAddressChar_of_mem_toText hmem) (by decide)
  have htrim : Text.trimEnds Text.isBlank (blanks ++ client.toText).toList =
      client.toText.toList := by
    rw [String.toList_append, Text.trimEnds, List.dropWhile_append_of_pos hblanks, ← Text.trimEnds]
    exact Text.trimEnds_eq_self haddress
  rw [listElements, List.splitOn_eq_singleton hcomma, List.map_singleton, htrim,
    String.ofList_toList]

theorem toText_ne_empty (client : IpAddress) : client.toText ≠ "" := fun hempty ↦
  IpAddress.toList_toText_ne_nil client (by rw [hempty]; rfl)

/-! ### Recording the client -/

/-- The prior chain has the hops of the first value. -/
theorem firstHops_eq (headers : Headers) :
    firstHops headers = (priorChain? headers).toList.flatMap hops := by
  rw [firstHops, priorChain?]
  cases hvalue : headers.get? .xForwardedFor with
  | none => rfl
  | some value =>
    cases htext : value.text? with
    | none => simp [valueHops, htext]
    | some text =>
      by_cases hblank : Text.trimEnds Text.isBlank text.toList = []
      · simp [valueHops, htext, hblank, hops_of_blank hblank]
      · simp [valueHops, htext, hblank]

theorem isReadableChar_of_mem_priorChain? {headers : Headers} {prior : String}
    (h : priorChain? headers = some prior) {c : Char} (hc : c ∈ prior.toList) :
    Http.isReadableChar c = true := by
  rw [priorChain?] at h
  obtain ⟨value, -, h⟩ := Option.bind_eq_some_iff.mp h
  obtain ⟨text, htext, h⟩ := Option.bind_eq_some_iff.mp h
  split at h
  · cases h
  · cases h
    exact HeaderValue.isReadableChar_of_mem_text? htext hc

/-- The client is recorded in one readable value, as an element behind those of the prior chain. -/
theorem exists_elements_recordClient (client : IpAddress) (headers : Headers) :
    ∃ value text, (recordClient client headers).values .xForwardedFor = [value] ∧
      value.text? = some text ∧
      listElements text =
        (priorChain? headers).toList.flatMap listElements ++ [client.toText] := by
  have haddress : ∀ c ∈ client.toText.toList, Http.isReadableChar c = true := fun c hc ↦
    Net.isReadableChar_of_isAddressChar (IpAddress.isAddressChar_of_mem_toText hc)
  rw [recordClient]
  cases hprior : priorChain? headers with
  | none =>
    obtain ⟨value, hvalue, htext⟩ := HeaderValue.exists_ofText?_eq_some haddress
    refine ⟨value, client.toText, by simp [hvalue, Headers.values_set], htext, ?_⟩
    have halone : listElements ("" ++ client.toText) = [client.toText] :=
      listElements_append_toText (by simp) client
    rwa [String.empty_append] at halone
  | some prior =>
    have hreadable : ∀ c ∈ (prior ++ ", " ++ client.toText).toList,
        Http.isReadableChar c = true := by
      intro c hc
      rw [String.toList_append, String.toList_append, List.mem_append, List.mem_append] at hc
      rcases hc with (hc | hc) | hc
      · exact isReadableChar_of_mem_priorChain? hprior hc
      · have hsigns : ", ".toList.all Http.isReadableChar = true := by decide
        exact List.all_eq_true.mp hsigns c hc
      · exact haddress c hc
    obtain ⟨value, hvalue, htext⟩ := HeaderValue.exists_ofText?_eq_some hreadable
    refine ⟨value, prior ++ ", " ++ client.toText, ?_, htext, ?_⟩
    · simp [hvalue, Headers.values_set]
    · have hcomma : prior ++ ", " ++ client.toText = prior ++ "," ++ (" " ++ client.toText) := by
        have hsigns : ", " = "," ++ " " := by decide
        simp only [hsigns, String.append_assoc]
      have hblank : " ".toList.all Text.isBlank = true := by decide
      rw [hcomma, listElements_append_comma,
        listElements_append_toText (List.all_eq_true.mp hblank) client]
      simp

/-- The hops of the value with the client are those of the first value and the client. -/
theorem exists_chain_recordClient (client : IpAddress) (headers : Headers) :
    ∃ value text, (recordClient client headers).values .xForwardedFor = [value] ∧
      value.text? = some text ∧ hops text = firstHops headers ++ [client.toText] := by
  obtain ⟨value, text, hvalues, htext, helements⟩ := exists_elements_recordClient client headers
  refine ⟨value, text, hvalues, htext, ?_⟩
  rw [firstHops_eq, hops, helements, List.filter_append, List.filter_flatMap]
  have hclient : [client.toText].filter (fun element ↦ element ≠ "") = [client.toText] := by
    simp [toText_ne_empty client]
  rw [hclient]
  rfl

/-- Recording the scheme and the host leaves the chain alone. -/
theorem values_xForwardedFor_recordForwarded (client : IpAddress) (scheme : InboundScheme)
    (host : Option HeaderValue) (headers : Headers) :
    (recordForwarded (some client) scheme host headers).values .xForwardedFor =
      (recordClient client headers).values .xForwardedFor := by
  unfold recordForwarded
  cases host with
  | none => exact Headers.values_setIfAbsent_of_ne _ _ (by decide)
  | some value =>
    exact (Headers.values_setIfAbsent_of_ne _ _ (by decide)).trans
      (Headers.values_setIfAbsent_of_ne _ _ (by decide))

/-- The chain that is sent on is that of the first `X-Forwarded-For` value with the client behind
it, in a single value. It continues the whole chain that arrived exactly when the later values
record nobody. -/
theorem forwardedChain_recordForwarded (client : IpAddress) (scheme : InboundScheme)
    (host : Option HeaderValue) (headers : Headers) :
    (∃ value, (recordForwarded (some client) scheme host headers).values .xForwardedFor =
      [value]) ∧
    forwardedChain (recordForwarded (some client) scheme host headers) =
      firstHops headers ++ [client.toText] ∧
    (forwardedChain (recordForwarded (some client) scheme host headers) =
      forwardedChain headers ++ [client.toText] ↔ laterHops headers = []) := by
  obtain ⟨value, text, hvalues, htext, hhops⟩ := exists_chain_recordClient client headers
  rw [← values_xForwardedFor_recordForwarded client scheme host headers] at hvalues
  have hchain : forwardedChain (recordForwarded (some client) scheme host headers) =
      firstHops headers ++ [client.toText] := by
    rw [forwardedChain_eq_append, firstHops, laterHops, Headers.get?, hvalues, ← hhops]
    simp [valueHops, htext]
  refine ⟨⟨value, hvalues⟩, hchain, ?_⟩
  rw [hchain, forwardedChain_eq_append headers]
  simp

/-- Of a chain on two lines the second hop is lost. -/
theorem forwardedChain_of_two_lines :
    ∃ (first second : HeaderValue) (client : IpAddress) (headers : Headers),
      headers.values .xForwardedFor = [first, second] ∧
      first.text? = some "203.0.113.7" ∧ second.text? = some "198.51.100.2" ∧
      forwardedChain headers = ["203.0.113.7", "198.51.100.2"] ∧
      client.toText = "10.0.0.1" ∧
      forwardedChain (recordForwarded (some client) .http none headers) =
        ["203.0.113.7", "10.0.0.1"] ∧
      forwardedChain (recordForwarded (some client) .http none headers) ≠
        forwardedChain headers ++ [client.toText] :=
  ⟨.ofAscii "203.0.113.7", .ofAscii "198.51.100.2", .v4 ⟨10, 0, 0, 1⟩,
    ⟨[(.xForwardedFor, .ofAscii "203.0.113.7"), (.xForwardedFor, .ofAscii "198.51.100.2")]⟩,
    by decide +kernel⟩

end WebGateway.Relay
