import WebGateway.Proofs.Gateway.Handling

/-!
# What the API server receives

A proxied request arrives at every API server that can be reached, as soon as its target there can
be written. Its fields arrive as `HasFaithfulFields` says: all the values of every field that is
neither about the connection nor named in a `Connection` value of the client, and nothing is added
but an identifier and the record of the client. If the configuration names the API server, the
method is not `CONNECT`, and the length of the body is known and left to the connection, then the
request arrives with its method, its body and its target, and it names the API server whatever host
the client named (`IsFaithful`). Where the target cannot be written, nothing is sent
(`received_of_proxied`).
-/

set_option autoImplicit false
set_option relaxedAutoImplicit false

namespace WebGateway.Gateway

open Backend (Target)
open Http (HeaderName HeaderValue Headers Method Request Uri UriError)
open Routing (Table)
open Relay (InboundScheme Protocol SentRequest Server connectionNames endToEnd forwardingNames
  hopByHop overWire sentHeaders)

variable {gateway : Gateway} {server : Server} {request : Request} {sent : SentRequest}

/-- The fields that a connection writes for itself: the host and the framing of the body. -/
def wireNames : List HeaderName :=
  [.host, .contentLength, .transferEncoding]

/-- The fields that arrive are those of the request, as they have to be passed on with the
identifier `fresh`. -/
structure HasFaithfulFields (gateway : Gateway) (fresh : HeaderValue) (request : Request)
    (sent : SentRequest) : Prop where
  /-- No field of the client names a host. -/
  values_host : sent.headers.values .host = []
  values_of_kept : ∀ name, name ∉ wireNames → name ∉ forwardingNames → name ≠ .xRequestId →
    name ∉ hopByHop → name ∉ connectionNames request.headers →
      sent.headers.values name = (request.headers.values name).map overWire
  values_of_hopByHop : ∀ name ∈ hopByHop, sent.headers.values name = []
  values_of_named : ∀ name ∈ connectionNames request.headers, name ∉ wireNames →
    name ∉ forwardingNames → sent.headers.values name = []
  /-- The client sent all that arrives, apart from its identifier and the record of it. -/
  values_of_absent : ∀ name, request.headers.values name = [] → name ∉ wireNames →
    name ∉ forwardingNames → name ≠ .xRequestId → sent.headers.values name = []
  values_xRequestId : sent.headers.values .xRequestId =
    if HeaderName.xRequestId ∈ connectionNames request.headers then []
    else if request.headers.values .xRequestId = [] then [overWire fresh]
    else (request.headers.values .xRequestId).map overWire
  /-- The client is recorded behind what is left of the request when it is stripped. -/
  values_of_forwarding : ∀ name ∈ forwardingNames, sent.headers.values name =
    ((Relay.recordForwarded request.client gateway.scheme (Relay.addressedHost? request)
      (endToEnd request.headers)).values name).map overWire

/-- What arrives is the request, as it has to be passed on with the identifier `fresh`. -/
structure IsFaithful (gateway : Gateway) (fresh : HeaderValue) (request : Request)
    (sent : SentRequest) : Prop extends HasFaithfulFields gateway fresh request sent where
  method_eq : sent.method = request.method
  body_eq : sent.body = request.body
  /-- In HTTP/1.1 the only host is the authority of the API server. -/
  hosts_eq : sent.protocol = .http1 →
    gateway.target.port ≠ gateway.target.scheme.defaultPort →
    ∃ host, HeaderValue.ofText? gateway.target.authority = some host ∧ sent.hosts = [host]
  /-- A port that the scheme implies is left out of the host. -/
  hosts_eq_of_defaultPort : sent.protocol = .http1 →
    gateway.target.port = gateway.target.scheme.defaultPort →
    ∃ host, HeaderValue.ofText? (Target.bracketed gateway.target.host) = some host ∧
      sent.hosts = [host]
  /-- In HTTP/2 no field names a host, and the authority is addressed with its port. -/
  hosts_eq_of_http2 : sent.protocol = .http2 →
    HeaderValue.ofText? gateway.target.authority = some sent.host ∧ sent.hosts = []

/-! ### Stamped sections -/

theorem addressedHost?_stamped (fresh : HeaderValue) (request : Request) :
    Relay.addressedHost? (stamped fresh request) = Relay.addressedHost? request := by
  have hhost : (stamped fresh request).headers.values .host = request.headers.values .host :=
    Http.RequestId.values_stamp_of_ne fresh request.headers (by decide)
  rw [Relay.addressedHost?, Headers.get?, hhost]
  rfl

/-- What arrives of a field that does not record clients. -/
theorem values_sentHeaders_stamped (scheme : InboundScheme) (fresh : HeaderValue)
    (request : Request) {name : HeaderName} (h : name ∉ forwardingNames) :
    ((sentHeaders scheme (stamped fresh request)).mapValues overWire).values name =
      if name = .host ∨ name ∈ hopByHop ∨ name ∈ connectionNames request.headers then []
      else ((Http.RequestId.stamp fresh request.headers).values name).map overWire := by
  rw [Headers.values_mapValues, Relay.values_sentHeaders _ _ h, connectionNames_stamped]
  split
  · rfl
  · rfl

theorem values_sentHeaders_stamped_of_mem (scheme : InboundScheme) (fresh : HeaderValue)
    (request : Request) {name : HeaderName} (h : name ∈ forwardingNames) :
    ((sentHeaders scheme (stamped fresh request)).mapValues overWire).values name =
      ((Relay.recordForwarded request.client scheme (Relay.addressedHost? request)
        (endToEnd request.headers)).values name).map overWire := by
  have hother : ∀ other ∈ forwardingNames, other ≠ .xRequestId := by decide
  rw [Headers.values_mapValues, Relay.values_sentHeaders_of_mem _ _ h, addressedHost?_stamped]
  refine congrArg (List.map overWire)
    (Relay.values_recordForwarded_congr _ _ _ (fun other hmem ↦ ?_) h)
  rw [Relay.values_endToEnd, Relay.values_endToEnd, connectionNames_stamped]
  exact congrArg _ (Http.RequestId.values_stamp_of_ne fresh request.headers (hother other hmem))

/-! ### What arrives -/

theorem hasFaithfulFields_of_sentRequest? {protocol : Protocol} {fresh : HeaderValue}
    (h : Relay.sentRequest? protocol gateway.target gateway.scheme (stamped fresh request) =
      some sent) : HasFaithfulFields gateway fresh request sent := by
  obtain ⟨uri, host, -, -, rfl⟩ := Relay.sentRequest?_eq_some_iff.mp h
  refine {
    values_host := (values_sentHeaders_stamped _ _ _ (by decide)).trans (if_pos (Or.inl rfl))
    values_of_kept := fun name hwire hforwarding hid hhop hnamed ↦ ?kept
    values_of_hopByHop := fun name hhop ↦ ?hop
    values_of_named := fun name hnamed _ hforwarding ↦
      (values_sentHeaders_stamped _ _ _ hforwarding).trans (if_pos (Or.inr (Or.inr hnamed)))
    values_of_absent := fun name habsent _ hforwarding hid ↦ ?absent
    values_xRequestId := ?id
    values_of_forwarding := fun name hname ↦ values_sentHeaders_stamped_of_mem _ _ _ hname }
  case kept =>
    have hnotHost : name ≠ .host := fun heq ↦ hwire (heq ▸ List.mem_cons_self)
    refine (values_sentHeaders_stamped _ _ _ hforwarding).trans ?_
    rw [if_neg (by simp [hnotHost, hhop, hnamed]), Http.RequestId.values_stamp_of_ne _ _ hid]
  case hop =>
    have hforwarding : ∀ other ∈ hopByHop, other ∉ forwardingNames := by decide
    exact (values_sentHeaders_stamped _ _ _ (hforwarding name hhop)).trans
      (if_pos (Or.inr (Or.inl hhop)))
  case absent =>
    refine (values_sentHeaders_stamped _ _ _ hforwarding).trans ?_
    rw [Http.RequestId.values_stamp_of_ne _ _ hid, habsent]
    exact ite_self _
  case id =>
    have hkept : HeaderName.xRequestId ≠ .host ∧ HeaderName.xRequestId ∉ hopByHop := by decide
    refine (values_sentHeaders_stamped _ _ _ (by decide)).trans ?_
    rw [Http.RequestId.values_stamp]
    by_cases habsent : request.headers.values .xRequestId = [] <;> simp [hkept, habsent]

/-- A client that gives no length gives none to what is sent on either. -/
theorem values_contentLength_sentHeaders (h : request.headers.values .contentLength = [])
    (scheme : InboundScheme) (fresh : HeaderValue) :
    (sentHeaders scheme (stamped fresh request)).values .contentLength = [] := by
  have hstamped : (stamped fresh request).headers.values .contentLength = [] :=
    (Http.RequestId.values_stamp_of_ne fresh request.headers (by decide)).trans h
  rw [Relay.values_sentHeaders _ _ (by decide), hstamped]
  exact ite_self _

theorem isFaithful_of_sentRequest? {text : String} {protocol : Protocol} {fresh : HeaderValue}
    (htarget : Target.parse text = .ok gateway.target)
    (hlength : request.headers.values .contentLength = []) (hknown : request.isStreamed = false)
    (h : Relay.sentRequest? protocol gateway.target gateway.scheme (stamped fresh request) =
      some sent) : IsFaithful gateway fresh request sent := by
  have hfields := hasFaithfulFields_of_sentRequest? h
  obtain ⟨uri, host, -, hhost, hsent⟩ := Relay.sentRequest?_eq_some_iff.mp h
  obtain ⟨hspoken, hnamed⟩ : sent.protocol = protocol ∧ sent.host = host := by
    rw [hsent]
    exact ⟨rfl, rfl⟩
  rw [Relay.hostText_of_parse htarget, ← hspoken, ← hnamed] at hhost
  refine {
    toHasFaithfulFields := hfields
    method_eq := by rw [hsent]; rfl
    body_eq := ?body
    hosts_eq := fun hprotocol hport ↦ ⟨sent.host, ?authority, ?only⟩
    hosts_eq_of_defaultPort := fun hprotocol hport ↦ ⟨sent.host, ?shortened, ?alone⟩
    hosts_eq_of_http2 := fun hprotocol ↦ ⟨?full, ?none⟩ }
  case body =>
    have hbody : Relay.sentBody protocol (sentHeaders gateway.scheme (stamped fresh request))
        (stamped fresh request) = request.body :=
      Relay.sentBody_eq (values_contentLength_sentHeaders hlength gateway.scheme fresh) hknown
    rw [hsent]
    exact hbody
  case authority =>
    rw [if_neg (not_and_of_not_right _ hport)] at hhost
    exact hhost
  case shortened =>
    rw [if_pos ⟨hprotocol, hport⟩] at hhost
    exact hhost
  case full =>
    have hother : Protocol.http2 ≠ .http1 := by decide
    rw [hprotocol, if_neg (not_and_of_not_left _ hother)] at hhost
    exact hhost
  case only | alone => rw [SentRequest.hosts, hprotocol, hfields.values_host]
  case none => rw [SentRequest.hosts, hprotocol, hfields.values_host]

theorem received_eq_none_of_uriFor_eq_error {extra : List String}
    (htable : Table.ofBeginnings extra = .ok gateway.routes)
    (hproxied : gateway.routes.resolve request.method request.uri.path = .handled .proxy)
    {error : UriError} (h : gateway.target.uriFor request.uri = .error error) (server : Server)
    (fresh : HeaderValue) : (gateway.handle server fresh request).received = none := by
  have hunsent : Relay.sentRequest? (server.protocolAt gateway.target) gateway.target
      gateway.scheme (stamped fresh request) = none := Relay.sentRequest?_eq_none h
  rw [handle_of_proxied htable hproxied, Relay.forward_of_sentRequest?_eq_none hunsent]

theorem exists_received_of_uriFor_eq_ok {extra : List String}
    (htable : Table.ofBeginnings extra = .ok gateway.routes) (hreach : server.IsReachable)
    (hproxied : gateway.routes.resolve request.method request.uri.path = .handled .proxy)
    {uri : Uri} (h : gateway.target.uriFor request.uri = .ok uri) (fresh : HeaderValue) :
    ∃ sent, (gateway.handle server fresh request).received = some sent ∧
      Relay.sentRequest? (server.protocolAt gateway.target) gateway.target gateway.scheme
        (stamped fresh request) = some sent ∧
      sent.protocol = server.protocolAt gateway.target ∧
      sent.target = Relay.targetText gateway.target request.method uri.target := by
  have hstamped : gateway.target.uriFor (stamped fresh request).uri = .ok uri := h
  obtain ⟨sent, hsent, hspoken, htarget⟩ := Relay.exists_sentRequest?_eq_some hstamped
    (server.protocolAt gateway.target) gateway.scheme
  refine ⟨sent, ?_, hsent, hspoken, htarget⟩
  rw [handle_of_proxied htable hproxied]
  exact Relay.received_forward_of_isReachable hreach hsent

/-- A request whose target can be written arrives there, and faithfully. -/
theorem exists_isFaithful_of_uriFor_eq_ok {text : String} {extra : List String}
    (htarget : Target.parse text = .ok gateway.target)
    (htable : Table.ofBeginnings extra = .ok gateway.routes) (hreach : server.IsReachable)
    (hproxied : gateway.routes.resolve request.method request.uri.path = .handled .proxy)
    (hmethod : request.method ≠ .connect) (hlength : request.headers.values .contentLength = [])
    (hknown : request.isStreamed = false) {uri : Uri}
    (huri : gateway.target.uriFor request.uri = .ok uri) (fresh : HeaderValue) :
    ∃ sent, (gateway.handle server fresh request).received = some sent ∧
      sent.protocol = server.protocolAt gateway.target ∧ sent.target = uri.target ∧
      IsFaithful gateway fresh request sent := by
  obtain ⟨sent, hreceived, hsent, hspoken, hwritten⟩ :=
    exists_received_of_uriFor_eq_ok htable hreach hproxied huri fresh
  rw [Relay.targetText, if_neg hmethod] at hwritten
  exact ⟨sent, hreceived, hspoken, hwritten,
    isFaithful_of_sentRequest? htarget hlength hknown hsent⟩

/-! ### A gateway with little behind it -/

/-- The gateway of the default table with an empty index document. -/
def ofTarget (target : Target) : Gateway where
  routes := .default
  target := target
  bundle := ⟨[(Assets.indexName, .empty)], .empty, List.nodup_singleton _, rfl⟩
  scheme := .https

theorem ofBeginnings_ofTarget (target : Target) :
    Table.ofBeginnings [] = .ok (ofTarget target).routes :=
  Routing.ofBeginnings_nil

theorem resolve_ofTarget (target : Target) (method : Method) {path : String}
    (hpath : "/libreapi".toList <+: path.toList) :
    (ofTarget target).routes.resolve method path = .handled .proxy := by
  refine Routing.resolve_of_beginning [] method (by decide) hpath ?_
  rintro rfl
  exact absurd hpath (by decide)

/-- A request whose `Connection` values name its host, its identifier and its record of clients. -/
def greedyRequest : Request where
  method := .head
  uri := ⟨none, none, "/libreapi/x", some "q"⟩
  headers := ⟨[(.host, .ofAscii "elsewhere"), (.allow, .ofAscii "a"), (.te, .ofAscii "b"),
    (.location, .ofAscii " c"), (.connection, .ofAscii "Host, X-Request-Id , allow"),
    (.location, .ofAscii "d"), (.connection, .ofAscii "X-Forwarded-Proto"),
    (.xForwardedProto, .ofAscii "e")]⟩
  body := .empty
  client := none

/-- The same request with a body, and a method that has one. -/
def greedyUpload : Request :=
  { greedyRequest with method := { text := "PUT" }, body := ⟨#[1, 2]⟩ }

theorem prefix_greedyRequest : "/libreapi".toList <+: greedyRequest.uri.path.toList := by
  decide

/-- A server that breaks off after it received a request can be reached. -/
theorem isReachable_failed (agrees : Bool) :
    Server.IsReachable ⟨agrees, fun _ ↦ .failed true []⟩ := by
  rintro sent cause ⟨⟩

/-! ### Requests as long as any -/

theorem utf8ByteSize_ofList_replicate (count : Nat) :
    (String.ofList (List.replicate count 'a')).utf8ByteSize = count := by
  induction count with
  | zero => rfl
  | succ count ih =>
    rw [List.replicate_succ', String.ofList_append, String.utf8ByteSize_append, ih]
    rfl

/-- A proxied path of `10 + count` octets. -/
def pathOfSize (count : Nat) : String :=
  "/libreapi" ++ String.ofList ('/' :: List.replicate count 'a')

theorem toList_pathOfSize (count : Nat) :
    (pathOfSize count).toList = "/libreapi".toList ++ '/' :: List.replicate count 'a' := by
  rw [pathOfSize, String.toList_append]
  exact congrArg _ String.toList_ofList

theorem utf8ByteSize_pathOfSize (count : Nat) : (pathOfSize count).utf8ByteSize = 10 + count := by
  have hslash : String.ofList ('/' :: List.replicate count 'a') =
      "/" ++ String.ofList (List.replicate count 'a') := by
    rw [← List.singleton_append, String.ofList_append]
  rw [pathOfSize, hslash, String.utf8ByteSize_append, String.utf8ByteSize_append,
    utf8ByteSize_ofList_replicate, ← Nat.add_assoc]
  exact congrArg (· + count) (by decide +kernel)

theorem parse_pathOfSize {count : Nat} (h : 10 + count ≤ Http.maxUriSize) :
    Uri.parse (pathOfSize count) = .ok ⟨none, none, pathOfSize count, none⟩ := by
  have hslash : "/libreapi".toList = '/' :: "libreapi".toList := by decide +kernel
  have hpath := toList_pathOfSize count
  rw [hslash, List.cons_append] at hpath
  refine Uri.parse_of_isPathChar hpath (by rwa [utf8ByteSize_pathOfSize]) fun c hc ↦ ?_
  have hall : ('/' :: "libreapi".toList).all Uri.isPathChar = true := by decide +kernel
  have hliteral := List.all_eq_true.mp hall
  rcases List.mem_append.mp hc with hc | hc
  · exact hliteral c (List.mem_cons_of_mem _ hc)
  · rcases List.mem_cons.mp hc with rfl | hc
    · exact hliteral _ List.mem_cons_self
    · rw [List.eq_of_mem_replicate hc]
      decide

theorem prefix_pathOfSize (count : Nat) : "/libreapi".toList <+: (pathOfSize count).toList := by
  rw [toList_pathOfSize]
  exact List.prefix_append _ _

/-- Behind the path of an API server, a request is longer by the size of that path. -/
theorem utf8ByteSize_pathQuery {target : Target} (hquery : target.query = none) (count : Nat) :
    (target.pathQuery ⟨none, none, pathOfSize count, none⟩).utf8ByteSize =
      target.basePath.utf8ByteSize + (10 + count) := by
  have hslash : (pathOfSize count).toList.head? = some '/' := by
    have hhead : "/libreapi".toList.head? = some '/' := by decide +kernel
    rw [toList_pathOfSize, List.head?_append, hhead]
    rfl
  rw [Target.pathQuery, hquery, Target.pathBehind, if_pos hslash]
  show (target.basePath ++ pathOfSize count).utf8ByteSize = _
  rw [String.utf8ByteSize_append, utf8ByteSize_pathOfSize]

/-- A request whose target is as long as any that is read. -/
def longRequest : Request :=
  ⟨.get, ⟨none, none, pathOfSize 65524, none⟩, .empty, .empty, none, false⟩

theorem uri_longRequest : longRequest.uri = ⟨none, none, pathOfSize 65524, none⟩ :=
  rfl

/-! ### Proxied requests -/

/-- A proxied request arrives at a server that can be reached, at its target there and faithfully,
unless that target cannot be written; then nothing arrives. -/
theorem received_of_proxied {text : String} {extra : List String}
    (htarget : Target.parse text = .ok gateway.target)
    (htable : Table.ofBeginnings extra = .ok gateway.routes) (hreach : server.IsReachable)
    (hproxied : gateway.routes.resolve request.method request.uri.path = .handled .proxy)
    (hmethod : request.method ≠ .connect) (hlength : request.headers.values .contentLength = [])
    (hknown : request.isStreamed = false) (fresh : HeaderValue) :
    (∀ uri, gateway.target.uriFor request.uri = .ok uri →
      ∃ sent, (gateway.handle server fresh request).received = some sent ∧
        sent.protocol = server.protocolAt gateway.target ∧ sent.target = uri.target ∧
        IsFaithful gateway fresh request sent) ∧
    (∀ error, gateway.target.uriFor request.uri = .error error →
      (gateway.handle server fresh request).received = none) := by
  constructor
  · exact fun uri huri ↦ exists_isFaithful_of_uriFor_eq_ok htarget htable hreach hproxied hmethod
      hlength hknown huri fresh
  · exact fun error herror ↦
      received_eq_none_of_uriFor_eq_error htable hproxied herror server fresh

/-- An API server that is reached over HTTP/1.1, with a path and a query of its own. -/
def plainServer : Target :=
  ⟨.http, "127.0.0.1", 9000, "/v1", some "k=1"⟩

/-- An API server that is reached over an encrypted connection at the port of its scheme. -/
def secureServer : Target :=
  ⟨.https, "localhost", 443, "", none⟩

theorem parse_plainServer : Target.parse "http://127.0.0.1:9000/v1?k=1" = .ok plainServer :=
  toOption_eq_some_iff.mp (by decide +kernel)

theorem parse_secureServer : Target.parse "https://localhost" = .ok secureServer :=
  toOption_eq_some_iff.mp (by decide +kernel)

/-- A `Connection` value may name the host, the identifier and the record of the client. A server
that agrees to HTTP/2 receives the body as well, and no host. -/
theorem received_greedyRequest :
    (∃ sent, ((ofTarget plainServer).handle ⟨true, fun _ ↦ .failed true []⟩ (.ofAscii "fresh")
        greedyRequest).received = some sent ∧
      sent.method = .head ∧ sent.target = "/v1/libreapi/x?k=1&q" ∧
      (∃ host, HeaderValue.ofText? "127.0.0.1:9000" = some host ∧ sent.hosts = [host]) ∧
      sent.headers.values .location = [.ofAscii "c", .ofAscii "d"] ∧
      sent.headers.values .allow = [] ∧ sent.headers.values .te = [] ∧
      sent.headers.values .xRequestId = [] ∧ sent.headers.values .xForwardedFor = [] ∧
      sent.headers.values .xForwardedProto = [Relay.InboundScheme.https.value] ∧
      sent.headers.values .xForwardedHost = [.ofAscii "elsewhere"]) ∧
    ∃ sent, ((ofTarget secureServer).handle ⟨true, fun _ ↦ .failed true []⟩ (.ofAscii "fresh")
        greedyUpload).received = some sent ∧
      sent.body = ⟨#[1, 2]⟩ ∧ sent.hosts = [] ∧
      HeaderValue.ofText? "localhost:443" = some sent.host := by
  constructor
  · have hproxied := resolve_ofTarget plainServer greedyRequest.method prefix_greedyRequest
    obtain ⟨harrives, -⟩ := received_of_proxied parse_plainServer (ofBeginnings_ofTarget _)
      (isReachable_failed true) hproxied (by decide) (by decide) rfl (.ofAscii "fresh")
    obtain ⟨sent, hsent, hspoken, htarget, hfaithful⟩ := harrives
      ⟨some "http", some "127.0.0.1:9000", "/v1/libreapi/x", some "k=1&q"⟩ rfl
    have hforwarded : ∀ name ∈ forwardingNames, sent.headers.values name = _ :=
      hfaithful.values_of_forwarding
    refine ⟨sent, hsent, hfaithful.method_eq, htarget, hfaithful.hosts_eq hspoken (by decide), ?_,
      ?_, ?_, ?_, ?_, ?_, ?_⟩
    · exact (hfaithful.values_of_kept .location (by decide) (by decide) (by decide) (by decide)
        (by decide +kernel)).trans (by decide +kernel)
    · exact hfaithful.values_of_named .allow (by decide +kernel) (by decide) (by decide)
    · exact hfaithful.values_of_hopByHop .te (by decide)
    · exact hfaithful.values_xRequestId.trans (by decide +kernel)
    · exact (hforwarded .xForwardedFor (by decide)).trans (by decide +kernel)
    · exact (hforwarded .xForwardedProto (by decide)).trans (by decide +kernel)
    · exact (hforwarded .xForwardedHost (by decide)).trans (by decide +kernel)
  · have hproxied := resolve_ofTarget secureServer greedyUpload.method prefix_greedyRequest
    obtain ⟨harrives, -⟩ := received_of_proxied parse_secureServer (ofBeginnings_ofTarget _)
      (isReachable_failed true) hproxied (by decide) (by decide) rfl (.ofAscii "fresh")
    obtain ⟨sent, hsent, hspoken, -, hfaithful⟩ := harrives
      ⟨some "https", some "localhost:443", "/libreapi/x", some "q"⟩ rfl
    obtain ⟨hhost, hnone⟩ := hfaithful.hosts_eq_of_http2 hspoken
    exact ⟨sent, hsent, hfaithful.body_eq, hnone, hhost⟩

/-- Behind a path of the server a request that can be read may be too long to be sent on, and one
that arrives names its server without a port that the scheme implies, or not at all where the server
agrees to HTTP/2. -/
theorem received_of_long_or_defaultPort :
    ((Target.parse "http://127.0.0.1:9000/b").toOption =
        some ⟨.http, "127.0.0.1", 9000, "/b", none⟩ ∧
      Uri.parse (pathOfSize 65524) = .ok longRequest.uri ∧
      (ofTarget ⟨.http, "127.0.0.1", 9000, "/b", none⟩).routes.resolve longRequest.method
        longRequest.uri.path = .handled .proxy ∧
      ∀ (server : Server) (fresh : HeaderValue),
        ((ofTarget ⟨.http, "127.0.0.1", 9000, "/b", none⟩).handle server fresh
          longRequest).received = none) ∧
    ((Target.parse "http://127.0.0.1").toOption = some ⟨.http, "127.0.0.1", 80, "", none⟩ ∧
      ∃ (server : Server) (sent : SentRequest), server.IsReachable ∧
        ((ofTarget ⟨.http, "127.0.0.1", 80, "", none⟩).handle server (.ofAscii "fresh")
          greedyRequest).received = some sent ∧
        (∃ host, HeaderValue.ofText? "127.0.0.1" = some host ∧ sent.hosts = [host]) ∧
        ∀ host, HeaderValue.ofText? "127.0.0.1:80" = some host → sent.hosts ≠ [host]) ∧
    ((Target.parse "https://localhost").toOption = some secureServer ∧
      ∃ (server : Server) (sent : SentRequest), server.IsReachable ∧
        ((ofTarget secureServer).handle server (.ofAscii "fresh") greedyRequest).received =
          some sent ∧
        sent.hosts = []) := by
  refine ⟨?long, ?shortened, ?unnamed⟩
  case long =>
    have hproxied : (ofTarget ⟨.http, "127.0.0.1", 9000, "/b", none⟩).routes.resolve
        longRequest.method longRequest.uri.path = .handled .proxy := by
      rw [uri_longRequest]
      exact resolve_ofTarget _ _ (prefix_pathOfSize 65524)
    have hlong : Http.maxUriSize < ((⟨.http, "127.0.0.1", 9000, "/b", none⟩ : Target).pathQuery
        longRequest.uri).utf8ByteSize := by
      rw [uri_longRequest, utf8ByteSize_pathQuery rfl]
      decide +kernel
    obtain ⟨error, herror⟩ := Relay.exists_uriFor_eq_error hlong
    refine ⟨by decide +kernel, ?_, hproxied, fun server fresh ↦ ?_⟩
    · rw [uri_longRequest]
      exact parse_pathOfSize (by decide)
    · exact received_eq_none_of_uriFor_eq_error (ofBeginnings_ofTarget _) hproxied herror server
        fresh
  case shortened =>
    have hparse : Target.parse "http://127.0.0.1" = .ok ⟨.http, "127.0.0.1", 80, "", none⟩ :=
      toOption_eq_some_iff.mp (by decide +kernel)
    have hproxied := resolve_ofTarget ⟨.http, "127.0.0.1", 80, "", none⟩ greedyRequest.method
      prefix_greedyRequest
    have huri : Target.uriFor ⟨.http, "127.0.0.1", 80, "", none⟩ greedyRequest.uri =
        .ok ⟨some "http", some "127.0.0.1:80", "/libreapi/x", some "q"⟩ := rfl
    obtain ⟨sent, hreceived, hspoken, -, hfaithful⟩ := exists_isFaithful_of_uriFor_eq_ok hparse
      (ofBeginnings_ofTarget _) (isReachable_failed false) hproxied (by decide) (by decide) rfl huri
      (.ofAscii "fresh")
    obtain ⟨host, hhost, hhosts⟩ := hfaithful.hosts_eq_of_defaultPort hspoken rfl
    refine ⟨?_, _, sent, isReachable_failed false, hreceived, ⟨host, hhost, hhosts⟩, ?_⟩
    · rw [hparse]
      rfl
    · intro other hother hsame
      have hports : HeaderValue.ofText? "127.0.0.1" ≠ HeaderValue.ofText? "127.0.0.1:80" := by
        decide +kernel
      rw [hhosts, List.singleton_inj] at hsame
      exact hports (hhost.trans (hsame ▸ hother.symm))
  case unnamed =>
    have hproxied := resolve_ofTarget secureServer greedyRequest.method prefix_greedyRequest
    have huri : secureServer.uriFor greedyRequest.uri =
        .ok ⟨some "https", some "localhost:443", "/libreapi/x", some "q"⟩ := rfl
    obtain ⟨sent, hreceived, hspoken, -, hfaithful⟩ := exists_isFaithful_of_uriFor_eq_ok
      parse_secureServer (ofBeginnings_ofTarget _) (isReachable_failed true) hproxied (by decide)
      (by decide) rfl huri (.ofAscii "fresh")
    refine ⟨?_, _, sent, isReachable_failed true, hreceived,
      (hfaithful.hosts_eq_of_http2 hspoken).2⟩
    rw [parse_secureServer]
    rfl

end WebGateway.Gateway
