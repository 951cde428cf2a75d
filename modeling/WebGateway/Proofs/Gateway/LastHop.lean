import WebGateway.Proofs.Gateway.Separation
import WebGateway.Proofs.Relay.ClientChain

/-!
# The record of the client

A client writes its own `X-Forwarded-*` fields and names any field in its `Connection` values, but
what the API server receives ends in the address from which the request came: the chain is read
after the stripping, and it is continued or begun anew, never left alone
(`exists_lastHop_recordForwarded`).
The scheme and the host are recorded where the values of the client do not survive the stripping.
The host is the one that the client addressed, which is read before the stripping takes it away
(`isOnRecord_of_received`).
-/

set_option autoImplicit false
set_option relaxedAutoImplicit false

namespace WebGateway

open Http (HeaderName HeaderValue Headers Request Uri)
open Relay (InboundScheme SentRequest Server connectionNames endToEnd forwardingNames listElements
  overWire recordForwarded)

/-! ### Values over a connection -/

namespace Relay

/-- A list has the same elements after it was sent over a connection. -/
theorem exists_listElements_overWire {value : HeaderValue} {text : String}
    (h : value.text? = some text) :
    ∃ arrived, (overWire value).text? = some arrived ∧
      listElements arrived = listElements text := by
  rw [text?_overWire, h]
  exact ⟨_, rfl, listElements_trimEnds text⟩

/-- A text without blanks arrives as it was sent. -/
theorem text?_overWire_of_no_blank {value : HeaderValue} {text : String}
    (h : value.text? = some text) (hblank : ∀ c ∈ text.toList, [' ', '\t'].contains c = false) :
    (overWire value).text? = some text := by
  rw [text?_overWire, h, Option.map_some, Text.trimEnds_eq_self hblank, String.ofList_toList]

@[simp]
theorem overWire_value (scheme : InboundScheme) : overWire scheme.value = scheme.value := by
  cases scheme <;> decide

/-! ### Recording the client -/

/-- Whatever the chain was, there is one value after recording, and it ends in the client. -/
theorem exists_lastHop_recordForwarded (client : Net.IpAddress) (scheme : InboundScheme)
    (host : Option HeaderValue) (headers : Headers) :
    ∃ value text, (recordForwarded (some client) scheme host headers).values .xForwardedFor =
        [value] ∧
      value.text? = some text ∧ (listElements text).getLast? = some client.toText := by
  obtain ⟨value, text, hvalues, htext, helements⟩ := exists_elements_recordClient client headers
  refine ⟨value, text, ?_, htext, ?_⟩
  · rw [values_xForwardedFor_recordForwarded, hvalues]
  · rw [helements, List.getLast?_append]
    rfl

theorem values_xForwardedProto_recordForwarded (client : Option Net.IpAddress)
    (scheme : InboundScheme) (host : Option HeaderValue) (headers : Headers) :
    (recordForwarded client scheme host headers).values .xForwardedProto =
      if headers.values .xForwardedProto = [] then [scheme.value]
      else headers.values .xForwardedProto := by
  have hclient : ∀ address, (recordClient address headers).values .xForwardedProto =
      headers.values .xForwardedProto := fun address ↦
    values_recordClient address headers (by decide)
  have hother : HeaderName.xForwardedHost ≠ .xForwardedProto := by decide
  unfold recordForwarded
  cases client <;> cases host <;> simp [Headers.values_setIfAbsent, hclient, hother]

theorem values_xForwardedHost_recordForwarded (client : Option Net.IpAddress)
    (scheme : InboundScheme) (host : Option HeaderValue) (headers : Headers) :
    (recordForwarded client scheme host headers).values .xForwardedHost =
      if headers.values .xForwardedHost = [] then host.toList
      else headers.values .xForwardedHost := by
  have hclient : ∀ address, (recordClient address headers).values .xForwardedHost =
      headers.values .xForwardedHost := fun address ↦
    values_recordClient address headers (by decide)
  have hother : HeaderName.xForwardedProto ≠ .xForwardedHost := by decide
  unfold recordForwarded
  cases client <;> cases host <;>
    simp +contextual [Headers.values_setIfAbsent, hclient, hother]

end Relay

namespace Gateway

variable {gateway : Gateway} {server : Server} {request : Request} {sent : SentRequest}

/-- The client's own values of a field outlive the stripping of its request. -/
def Survives (request : Request) (name : HeaderName) : Prop :=
  request.headers.values name ≠ [] ∧ name ∉ connectionNames request.headers

/-- The API server is told where the request came from: by the address behind the chain of the
client, and by the scheme and the host that the client addressed, unless values of the client's own
for these survive. -/
structure IsOnRecord (gateway : Gateway) (request : Request) (sent : SentRequest) : Prop where
  lastHop : ∀ address, request.client = some address → ∃ value text,
    sent.headers.values .xForwardedFor = [value] ∧ value.text? = some text ∧
      (listElements text).getLast? = some address.toText
  scheme_of_survives : Survives request .xForwardedProto →
    sent.headers.values .xForwardedProto = (request.headers.values .xForwardedProto).map overWire
  scheme_of_not_survives : ¬Survives request .xForwardedProto →
    sent.headers.values .xForwardedProto = [gateway.scheme.value]
  host_of_survives : Survives request .xForwardedHost →
    sent.headers.values .xForwardedHost = (request.headers.values .xForwardedHost).map overWire
  /-- The first host is recorded, whether or not it is named in a `Connection` value. -/
  host_of_host : ¬Survives request .xForwardedHost → ∀ first rest,
    request.headers.values .host = first :: rest →
      sent.headers.values .xForwardedHost = [overWire first]
  /-- Without a host, the authority of the target that was read is recorded. -/
  host_of_authority : ¬Survives request .xForwardedHost → request.headers.values .host = [] →
    ∀ text, Uri.parse text = .ok request.uri → ∀ authority, request.uri.authority = some authority →
      ∃ value, sent.headers.values .xForwardedHost = [value] ∧ value.text? = some authority
  host_of_none : ¬Survives request .xForwardedHost → request.headers.values .host = [] →
    request.uri.authority = none → sent.headers.values .xForwardedHost = []

/-- What is left of a forwarding field when a request is stripped. -/
theorem values_endToEnd_of_survives {name : HeaderName} (hhop : name ∉ Relay.hopByHop)
    (h : Survives request name) :
    (endToEnd request.headers).values name = request.headers.values name := by
  rw [Relay.values_endToEnd, if_neg (not_or.mpr ⟨hhop, h.2⟩)]

theorem values_endToEnd_of_not_survives {name : HeaderName} (h : ¬Survives request name) :
    (endToEnd request.headers).values name = [] := by
  rw [Relay.values_endToEnd]
  by_cases hvalues : request.headers.values name = []
  · rw [hvalues]
    exact ite_self _
  · have hnamed : name ∈ connectionNames request.headers := by
      by_contra hfree
      exact h ⟨hvalues, hfree⟩
    exact if_pos (Or.inr hnamed)

/-- The authority of a target that was read is a field value and arrives as it is. -/
theorem exists_value_of_authority {text authority : String} (h : Uri.parse text = .ok request.uri)
    (hauthority : request.uri.authority = some authority) :
    ∃ value, HeaderValue.ofText? authority = some value ∧
      (overWire value).text? = some authority := by
  have hread := Uri.parseAuthority_of_parse h hauthority
  obtain ⟨value, hvalue, htext⟩ :=
    HeaderValue.exists_ofText?_eq_some (Uri.parseAuthority_eq_ok hread).2
  refine ⟨value, hvalue, Relay.text?_overWire_of_no_blank htext fun c hc ↦ ?_⟩
  rcases Uri.eq_percent_or_isAuthorityChar_of_parseAuthority hread hc with rfl | hchar
  · decide
  · rw [Bool.eq_false_iff]
    intro hblank
    have hspace : Uri.isAuthorityChar ' ' = false := by decide
    have htab : Uri.isAuthorityChar '\t' = false := by decide
    have hmem : c = ' ' ∨ c = '\t' := by simpa using hblank
    rcases hmem with rfl | rfl
    · exact Bool.false_ne_true (hspace.symm.trans hchar)
    · exact Bool.false_ne_true (htab.symm.trans hchar)

/-- A request whose `Connection` values name its record of clients, which it has on two lines. -/
def forgedRequest : Request where
  method := .get
  uri := ⟨some "http", some "edge:8080", "/libreapi/x", none⟩
  headers := ⟨[(.xForwardedFor, .ofAscii "198.51.100.2, "), (.xForwardedFor, .ofAscii "10.0.0.1"),
    (.xForwardedHost, .ofAscii "forged"), (.connection, .ofAscii "Host, X-Forwarded-Host"),
    (.xForwardedProto, .ofAscii "ftp "), (.xForwardedProto, .ofAscii "gopher")]⟩
  body := .empty
  client := some (.v4 ⟨192, 0, 2, 7⟩)

/-- Every request that is received has its client on record, whatever its fields are. -/
theorem isOnRecord_of_received {fresh : HeaderValue}
    (h : (gateway.handle server fresh request).received = some sent) :
    IsOnRecord gateway request sent := by
  have hrecorded : ∀ name ∈ forwardingNames, sent.headers.values name = _ :=
    (hasFaithfulFields_of_sentRequest? (sentRequest?_of_received h).2).values_of_forwarding
  have hproto := hrecorded .xForwardedProto (by decide)
  rw [Relay.values_xForwardedProto_recordForwarded] at hproto
  have hhost := hrecorded .xForwardedHost (by decide)
  rw [Relay.values_xForwardedHost_recordForwarded] at hhost
  have haddressed : ¬Survives request .xForwardedHost → sent.headers.values .xForwardedHost =
      (Relay.addressedHost? request).toList.map overWire := by
    intro hlost
    rw [hhost, values_endToEnd_of_not_survives hlost, if_pos rfl]
  refine {
    lastHop := fun address hclient ↦ ?chain
    scheme_of_survives := fun hsurvives ↦ ?keptScheme
    scheme_of_not_survives := fun hlost ↦ ?ownScheme
    host_of_survives := fun hsurvives ↦ ?keptHost
    host_of_host := fun hlost first rest hvalues ↦ ?ownHost
    host_of_authority := fun hlost hvalues text hread authority hauthority ↦ ?ownAuthority
    host_of_none := fun hlost hvalues hauthority ↦ ?noHost }
  case chain =>
    obtain ⟨value, text, hvalues, htext, hlast⟩ := Relay.exists_lastHop_recordForwarded address
      gateway.scheme (Relay.addressedHost? request) (endToEnd request.headers)
    obtain ⟨arrived, harrived, helements⟩ := Relay.exists_listElements_overWire htext
    have hfor := hrecorded .xForwardedFor (by decide)
    rw [hclient, hvalues] at hfor
    exact ⟨overWire value, arrived, hfor, harrived, helements ▸ hlast⟩
  case keptScheme =>
    rw [hproto, values_endToEnd_of_survives (by decide) hsurvives, if_neg hsurvives.1]
  case ownScheme =>
    rw [hproto, values_endToEnd_of_not_survives hlost, if_pos rfl]
    simp
  case keptHost =>
    rw [hhost, values_endToEnd_of_survives (by decide) hsurvives, if_neg hsurvives.1]
  case ownHost =>
    rw [haddressed hlost, Relay.addressedHost?, Headers.get?, hvalues]
    rfl
  case ownAuthority =>
    obtain ⟨value, hvalue, htext⟩ := exists_value_of_authority hread hauthority
    refine ⟨overWire value, ?_, htext⟩
    rw [haddressed hlost, Relay.addressedHost?, Headers.get?, hvalues, hauthority]
    simp [hvalue]
  case noHost =>
    rw [haddressed hlost, Relay.addressedHost?, Headers.get?, hvalues, hauthority]
    rfl

/-- A client that forges its record is on it all the same, and the authority that it addressed is
recorded where it names the field for the host. -/
theorem isOnRecord_forgedRequest :
    ∃ sent, ((ofTarget ⟨.http, "127.0.0.1", 9000, "", none⟩).handle
        ⟨false, fun _ ↦ .failed true []⟩ (.ofAscii "generated") forgedRequest).received = some sent ∧
      (∃ value text, sent.headers.values .xForwardedFor = [value] ∧ value.text? = some text ∧
        (listElements text).getLast? = some "192.0.2.7") ∧
      sent.headers.values .xForwardedProto = [.ofAscii "ftp", .ofAscii "gopher"] ∧
      ∃ value, sent.headers.values .xForwardedHost = [value] ∧ value.text? = some "edge:8080" := by
  have hprefix : "/libreapi".toList <+: forgedRequest.uri.path.toList := by decide +kernel
  have hproxied := resolve_ofTarget ⟨.http, "127.0.0.1", 9000, "", none⟩ forgedRequest.method
    hprefix
  have huri : Backend.Target.uriFor ⟨.http, "127.0.0.1", 9000, "", none⟩ forgedRequest.uri =
      .ok ⟨some "http", some "127.0.0.1:9000", "/libreapi/x", none⟩ := rfl
  obtain ⟨sent, hreceived, -⟩ := exists_received_of_uriFor_eq_ok (ofBeginnings_ofTarget _)
    (isReachable_failed false) hproxied huri (.ofAscii "generated")
  have hrecord := isOnRecord_of_received hreceived
  have hsurvives : Survives forgedRequest .xForwardedProto := by
    constructor <;> decide +kernel
  have hlost : ¬Survives forgedRequest .xForwardedHost := fun hsurvives ↦
    hsurvives.2 (by decide +kernel)
  have hread : Uri.parse "http://edge:8080/libreapi/x" = .ok forgedRequest.uri := rfl
  have haddress : (Net.IpAddress.v4 ⟨192, 0, 2, 7⟩).toText = "192.0.2.7" := by decide +kernel
  refine ⟨sent, hreceived, ?_, ?_, ?_⟩
  · rw [← haddress]
    exact hrecord.lastHop _ rfl
  · exact (hrecord.scheme_of_survives hsurvives).trans (by decide +kernel)
  · exact hrecord.host_of_authority hlost rfl _ hread _ rfl

end Gateway

end WebGateway
