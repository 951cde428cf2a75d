import WebGateway.Proofs.Gateway.Replies

/-!
# Handlers that do not interfere

A request is forwarded (`IsForwarded`) or it is answered by the gateway itself, and never both. The
gateway's own answer (`ownResponse`) is a function of the table, the bundle, the method and the path
alone, and what is forwarded is a matter of the server, its target, the inbound scheme and the
request. So two gateways that differ in what the responsible handler does not read answer alike, and
nothing reaches an API server to which the path does not belong (`answers_alike`). What is received
was forwarded, as it was sent on (`sentRequest?_of_received`).
-/

set_option autoImplicit false
set_option relaxedAutoImplicit false

namespace WebGateway

open Backend (Target)
open Http (HeaderName HeaderValue Headers Method Request Response)
open Relay (Exchange SentRequest Server)
open Routing (Decision Table defaultBeginnings probePath)

/-! ### The fields of the answers of the gateway itself -/

namespace Assets.Bundle

/-- The fields with which files are described and paths are redirected. -/
def fieldNames : List HeaderName :=
  [.contentType, .contentLength, .cacheControl, .location]

theorem values_serve_eq_nil (method : Method) (resolution : Resolution) {name : HeaderName}
    (h : name ∉ fieldNames) : (serve method resolution).headers.values name = [] := by
  simp only [fieldNames, List.mem_cons, List.not_mem_nil, or_false, not_or] at h
  obtain ⟨htype, hlength, hcache, -⟩ := h
  have hdescribed : ((Headers.empty.add .contentType resolution.asset.contentType).add
      .contentLength (.ofNat resolution.asset.body.size)).values name = [] := by
    rw [Headers.values_add, Headers.values_add, if_neg (Ne.symm hlength), if_neg (Ne.symm htype)]
    rfl
  unfold serve
  by_cases hfallback : resolution.isFallback = true
  · simp [hfallback, Headers.values_add, Ne.symm hcache, hdescribed]
  · simp [hfallback, hdescribed]

theorem values_respond_eq_nil (bundle : Bundle) (method : Method) (path : String)
    {name : HeaderName} (h : name ∉ fieldNames) :
    (bundle.respond method path).headers.values name = [] := by
  unfold respond
  cases bundle.location? path with
  | none => exact values_serve_eq_nil method _ h
  | some location =>
    have hlocation : HeaderName.location ≠ name := by
      rintro rfl
      exact h (by simp [fieldNames])
    show (Headers.empty.add .location location).values name = []
    rw [Headers.values_add, if_neg hlocation]
    rfl

end Assets.Bundle

namespace Gateway

variable {gateway : Gateway} {server : Server} {request : Request} {sent : SentRequest}

theorem values_methodNotAllowed_eq_nil (allowed : List Method) {name : HeaderName}
    (htype : HeaderName.contentType ≠ name) (hallow : HeaderName.allow ≠ name) :
    (Response.methodNotAllowed allowed).headers.values name = [] := by
  unfold Response.methodNotAllowed
  cases HeaderValue.ofText? (Method.allowText allowed) with
  | none => exact (values_ofText _ _ _).trans (if_neg htype)
  | some value =>
    show ((Response.ofText 405 "Method Not Allowed").headers.set .allow value).values name = []
    rw [Headers.values_set, if_neg hallow, values_ofText, if_neg htype]

/-! ### Forwarded or not -/

/-- The answer of the gateway itself to a request that is not forwarded. -/
def ownResponse (routes : Table) (bundle : Assets.Bundle) (method : Method) (path : String) :
    Response :=
  if Routing.startsWithSlash path then
    match routes.resolve method path with
    | .handled .health => .healthy
    | .handled _ => bundle.respond method path
    | .methodNotAllowed _ allowed => .methodNotAllowed allowed
  else .bare 404

theorem dispatch_of_not_isForwarded (h : ¬gateway.IsForwarded request) (server : Server) :
    gateway.dispatch server request =
      ⟨ownResponse gateway.routes gateway.bundle request.method request.uri.path, none⟩ := by
  unfold dispatch ownResponse
  by_cases hslash : Routing.startsWithSlash request.uri.path = true
  · have hlocal : gateway.routes.resolve request.method request.uri.path ≠ .handled .proxy :=
      fun hproxy ↦ h ⟨hslash, hproxy⟩
    rw [if_pos hslash, if_pos hslash, route]
    cases hdecision : gateway.routes.resolve request.method request.uri.path with
    | methodNotAllowed handler allowed => rfl
    | handled handler =>
      cases handler with
      | health => rfl
      | static => rfl
      | proxy => exact absurd hdecision hlocal
  · rw [if_neg hslash, if_neg hslash]

/-- No answer of the gateway itself has an identifier before it is given one. -/
theorem values_xRequestId_ownResponse (routes : Table) (bundle : Assets.Bundle) (method : Method)
    (path : String) :
    (ownResponse routes bundle method path).headers.values .xRequestId = [] := by
  have hfile : (bundle.respond method path).headers.values .xRequestId = [] :=
    bundle.values_respond_eq_nil method path (by decide)
  unfold ownResponse
  by_cases hslash : Routing.startsWithSlash path = true
  · rw [if_pos hslash]
    cases routes.resolve method path with
    | methodNotAllowed handler allowed =>
      exact values_methodNotAllowed_eq_nil allowed (by decide) (by decide)
    | handled handler =>
      cases handler with
      | health => exact values_ofText _ _ _
      | static => exact hfile
      | proxy => exact hfile
  · rw [if_neg hslash]
    rfl

/-- What is received was forwarded, as it was sent on with its identifier. -/
theorem sentRequest?_of_received {fresh : HeaderValue}
    (h : (gateway.handle server fresh request).received = some sent) :
    gateway.IsForwarded request ∧
      Relay.sentRequest? (server.protocolAt gateway.target) gateway.target gateway.scheme
        (stamped fresh request) = some sent := by
  rw [handle_eq_dispatch] at h
  by_cases hforwarded : gateway.IsForwarded (stamped fresh request)
  · rw [dispatch_of_isForwarded hforwarded] at h
    exact ⟨hforwarded, Relay.sentRequest?_eq_some_of_received h⟩
  · rw [dispatch_of_not_isForwarded hforwarded] at h
    cases h

/-! ### What the handlers read -/

/-- Only a path behind a proxied beginning is forwarded, with any method. -/
theorem isForwarded_iff {extra : List String} (htable : Table.ofBeginnings extra = .ok gateway.routes)
    (hslash : Routing.startsWithSlash request.uri.path = true) :
    gateway.IsForwarded request ↔ request.uri.path ≠ probePath ∧
      ∃ literal ∈ defaultBeginnings ++ extra, literal.toList <+: request.uri.path.toList := by
  obtain ⟨-, -, hroutes⟩ := Routing.ofBeginnings_eq_ok_iff.mp htable
  unfold IsForwarded
  rw [hroutes, Routing.resolve_rulesFor, Decision.ofBeginnings_eq_proxy_iff]
  exact and_iff_right hslash

/-- Two answers to a request are the same up to the identifier that was generated for it: they are
equal in everything but their identifiers, and in these too if the request brought one. -/
structure IsSameUpToId (request : Request) (first second : Response) : Prop where
  status_eq : first.status = second.status
  body_eq : first.body = second.body
  values_eq : ∀ name, name ≠ .xRequestId → first.headers.values name = second.headers.values name
  values_xRequestId_eq : request.headers.values .xRequestId ≠ [] →
    first.headers.values .xRequestId = second.headers.values .xRequestId

/-- Answers that differ in the identifiers they are given are the same up to these. -/
theorem isSameUpToId_answer (request : Request) (response : Response)
    (first second : HeaderValue) :
    IsSameUpToId request
      (Http.RequestId.answer (some ((request.headers.get? .xRequestId).getD first)) response)
      (Http.RequestId.answer (some ((request.headers.get? .xRequestId).getD second)) response) := by
  constructor
  · simp
  · simp
  · intro name hname
    rw [Http.RequestId.values_answer_of_ne _ _ hname, Http.RequestId.values_answer_of_ne _ _ hname]
  · intro hids
    obtain ⟨id, hid⟩ : ∃ id, request.headers.get? .xRequestId = some id := by
      cases hvalues : request.headers.values .xRequestId with
      | nil => exact absurd hvalues hids
      | cons id rest => exact ⟨id, by rw [Headers.get?, hvalues]; rfl⟩
    rw [hid]
    rfl

/-- The gateway in front of another API server. -/
def withTarget (gateway : Gateway) (target : Target) : Gateway :=
  { gateway with target := target }

/-- The gateway with other files. -/
def withBundle (gateway : Gateway) (bundle : Assets.Bundle) : Gateway :=
  { gateway with bundle := bundle }

/-- Where nothing is forwarded, an exchange is the answer of the gateway itself, whatever server
lies behind it. -/
theorem handle_of_not_isForwarded (h : ¬gateway.IsForwarded request) (target : Target)
    (server : Server) (fresh : HeaderValue) :
    (gateway.withTarget target).handle server fresh request =
      ⟨Http.RequestId.answer (some ((request.headers.get? .xRequestId).getD fresh))
        (frame request.method (ownResponse gateway.routes gateway.bundle request.method
          request.uri.path)), none⟩ := by
  have hstamped : ¬(gateway.withTarget target).IsForwarded (stamped fresh request) := h
  rw [handle_eq_dispatch, dispatch_of_not_isForwarded hstamped]
  rfl

/-- What is forwarded reads the target and the inbound scheme of the gateway, but no file. -/
theorem dispatch_withBundle (h : gateway.IsForwarded request) (bundle : Assets.Bundle)
    (server : Server) : (gateway.withBundle bundle).dispatch server request =
      Relay.forward server gateway.target gateway.scheme request := by
  have hforwarded : (gateway.withBundle bundle).IsForwarded request := h
  exact dispatch_of_isForwarded hforwarded server

/-- A gateway with proxied beginnings of which one begins the probe path. -/
def docsGateway : Gateway :=
  { ofTarget ⟨.http, "127.0.0.1", 9000, "", none⟩ with
    routes := ⟨Table.rulesFor ["/health", "/docs"]⟩ }

/-- A bundle with a file under `docs`, and an index document below it. -/
def docsBundle : Assets.Bundle where
  files := [(Assets.indexName, .empty), ("docs", .empty), ("docs/index.html", .empty)]
  index := .empty
  nodup_keys := by decide
  lookup_index := rfl

/-- The request that names its own fields, at another path. -/
def requestAt (path : String) : Request :=
  { greedyRequest with uri := ⟨none, none, path, none⟩ }

/-- What a handler does not read changes neither the answer nor what is received. Where the path is
the probe path or has no proxied beginning, no API server receives anything, and any two servers at
any two targets leave the answer the same up to the generated identifier. Where the path is proxied,
any two bundles give one exchange. -/
theorem answers_alike {extra : List String} (htable : Table.ofBeginnings extra = .ok gateway.routes)
    (hslash : Routing.startsWithSlash request.uri.path = true) :
    (request.uri.path = probePath ∨
        (¬∃ literal ∈ defaultBeginnings ++ extra, literal.toList <+: request.uri.path.toList) →
      (∀ target server fresh,
        ((gateway.withTarget target).handle server fresh request).received = none) ∧
      (∀ firstTarget secondTarget firstServer secondServer firstFresh secondFresh,
        IsSameUpToId request
          ((gateway.withTarget firstTarget).handle firstServer firstFresh request).response
          ((gateway.withTarget secondTarget).handle secondServer secondFresh request).response) ∧
      ∀ firstTarget secondTarget firstServer secondServer fresh,
        (gateway.withTarget firstTarget).handle firstServer fresh request =
          (gateway.withTarget secondTarget).handle secondServer fresh request) ∧
    (request.uri.path ≠ probePath →
      (∃ literal ∈ defaultBeginnings ++ extra, literal.toList <+: request.uri.path.toList) →
      ∀ firstBundle secondBundle server fresh,
        (gateway.withBundle firstBundle).handle server fresh request =
          (gateway.withBundle secondBundle).handle server fresh request) := by
  have hforwarded := isForwarded_iff htable hslash
  constructor
  · intro hown
    have hkept : ¬gateway.IsForwarded request := by
      rw [hforwarded]
      rintro ⟨hprobe, hbeginning⟩
      exact hown.elim hprobe fun hnone ↦ hnone hbeginning
    have hhandle := handle_of_not_isForwarded hkept
    refine ⟨?_, ?_, ?_⟩
    · intro target server fresh
      rw [hhandle]
    · intro firstTarget secondTarget firstServer secondServer firstFresh secondFresh
      rw [hhandle, hhandle]
      exact isSameUpToId_answer request _ firstFresh secondFresh
    · intro firstTarget secondTarget firstServer secondServer fresh
      rw [hhandle, hhandle]
  · intro hprobe hbeginning firstBundle secondBundle server fresh
    have hproxied : gateway.IsForwarded (stamped fresh request) :=
      hforwarded.mpr ⟨hprobe, hbeginning⟩
    rw [handle_eq_dispatch, handle_eq_dispatch, dispatch_withBundle hproxied,
      dispatch_withBundle hproxied]

/-- A proxied beginning of the probe path leaves the probe to the gateway, and files that lie under
a proxied path change nothing. -/
theorem answers_alike_nested :
    Table.ofBeginnings ["/health", "/docs"] = .ok docsGateway.routes ∧
      ((docsGateway.withTarget ⟨.https, "localhost", 443, "/v1", none⟩).handle
        brokenServer (.ofAscii "id-1") (requestAt "/healthcheck")).received = none ∧
      IsSameUpToId (requestAt "/healthcheck")
        ((docsGateway.withTarget ⟨.https, "localhost", 443, "/v1", none⟩).handle
          brokenServer (.ofAscii "id-1") (requestAt "/healthcheck")).response
        ((docsGateway.withTarget ⟨.http, "127.0.0.1", 9000, "", none⟩).handle
          .unreachable (.ofAscii "id-2") (requestAt "/healthcheck")).response ∧
      (docsGateway.withBundle docsBundle).handle brokenServer (.ofAscii "id-1")
          (requestAt "/docs") =
        docsGateway.handle brokenServer (.ofAscii "id-1") (requestAt "/docs") := by
  have htable : Table.ofBeginnings ["/health", "/docs"] = .ok docsGateway.routes :=
    Routing.ofBeginnings_eq_ok_iff.mpr ⟨by decide +kernel, by decide +kernel, rfl⟩
  have hprobe : Routing.startsWithSlash (requestAt "/healthcheck").uri.path = true := by
    decide +kernel
  have hdocs : Routing.startsWithSlash (requestAt "/docs").uri.path = true := by decide +kernel
  obtain ⟨hreceived, hsame, -⟩ := (answers_alike htable hprobe).1 (Or.inl rfl)
  refine ⟨htable, hreceived _ _ _, hsame _ _ _ _ _ _, ?_⟩
  have hbeginning : ∃ literal ∈ defaultBeginnings ++ ["/health", "/docs"],
      literal.toList <+: (requestAt "/docs").uri.path.toList :=
    ⟨"/docs", by decide +kernel, by decide +kernel⟩
  exact (answers_alike htable hdocs).2 (by decide +kernel) hbeginning docsBundle _ _ _

end Gateway

end WebGateway
