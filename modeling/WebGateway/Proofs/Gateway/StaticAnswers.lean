import WebGateway.Proofs.Assets.Directories
import WebGateway.Proofs.Gateway.Separation

/-!
# Answers out of the bundle

A path that is neither probed nor proxied is answered out of the bundle. A `GET` is redirected where
the bundle has a location for the path that can be written in a field, and is given a file
otherwise, that of the path or the index document at the top (`IsStatic`); no path is missed. The
bundle announces the length of a file before the gateway would, so a `HEAD` differs from a `GET` in
its body alone (`frame_head_respond`).
-/

set_option autoImplicit false
set_option relaxedAutoImplicit false

namespace WebGateway

open Http (HeaderName HeaderValue Headers Method Request Response isFieldChar isReadableChar)
open Relay (Server)
open Routing (Decision Table defaultBeginnings probePath)

/-- The response as a `HEAD` would get it. -/
def Http.Response.withoutBody (response : Response) : Response :=
  { response with body := .empty }

/-! ### Files and redirects -/

namespace Assets.Bundle

variable {bundle : Bundle} {path : String}

/-- There is a location for a path where it is redirected and the characters can be written. -/
theorem isSome_location?_iff : (bundle.location? path).isSome ↔
    ∃ location, bundle.redirect? path = some location ∧
      ∀ c ∈ location.toList, isFieldChar c = true := by
  rw [location?]
  cases bundle.redirect? path with
  | none => simp
  | some location => simp [← HeaderValue.isSome_ofText?_iff]

theorem values_serve (method : Method) (resolution : Resolution) :
    (serve method resolution).headers.values .contentType = [resolution.asset.contentType] ∧
    (serve method resolution).headers.values .contentLength =
      [.ofNat resolution.asset.body.size] ∧
    (serve method resolution).headers.values .cacheControl =
      if resolution.isFallback then [.ofAscii "no-cache"] else [] := by
  unfold serve
  by_cases hfallback : resolution.isFallback = true
  · simp +decide [hfallback, Headers.values_add]
  · simp +decide [hfallback, Headers.values_add]

theorem respond_of_location?_eq_none (h : bundle.location? path = none) (method : Method) :
    bundle.respond method path = serve method (bundle.resolve path) := by
  rw [respond, h]

theorem respond_of_location?_eq_some {location : HeaderValue}
    (h : bundle.location? path = some location) (method : Method) :
    bundle.respond method path =
      { Response.bare 301 with headers := Headers.empty.add .location location } := by
  rw [respond, h]

theorem status_respond (bundle : Bundle) (method : Method) (path : String) :
    (bundle.respond method path).status = if (bundle.location? path).isSome then 301 else 200 := by
  cases h : bundle.location? path with
  | none => rw [respond_of_location?_eq_none h, status_serve]; rfl
  | some location => rw [respond_of_location?_eq_some h]; rfl

/-- A path without a file of its own is answered with the index document at the top. -/
theorem resolve_eq_of_isFallback (h : (bundle.resolve path).isFallback = true) :
    (bundle.resolve path).asset = bundle.indexAsset := by
  unfold resolve at h ⊢
  cases hfile : (key? path).bind bundle.get? with
  | none => rfl
  | some asset => simp [hfile, Resolution.isFallback] at h

end Assets.Bundle

namespace Gateway

variable {gateway : Gateway} {request : Request} {extra : List String}

/-- The response answers a `GET` for a path out of the bundle. -/
structure IsStatic (bundle : Assets.Bundle) (path : String) (response : Response) : Prop where
  status_of_location : (∃ location, bundle.redirect? path = some location ∧
    ∀ c ∈ location.toList, isFieldChar c = true) → response.status = 301
  status_of_no_location : (¬∃ location, bundle.redirect? path = some location ∧
    ∀ c ∈ location.toList, isFieldChar c = true) → response.status = 200
  location_of_moved : response.status = 301 → ∃ value,
    response.headers.values .location = [value] ∧
      Text.ofUtf8? value.octets = some (path ++ "/").toList
  body_eq : response.status = 200 → response.body = .sized (bundle.resolve path).asset.body
  values_contentType : response.status = 200 →
    response.headers.values .contentType = [(bundle.resolve path).asset.contentType]
  values_contentLength : response.status = 200 →
    response.headers.values .contentLength = [.ofNat (bundle.resolve path).asset.body.size]
  /-- Only the index document that stands for another path is not kept. -/
  values_cacheControl : response.status = 200 → response.headers.values .cacheControl =
    if (bundle.resolve path).isFallback then [.ofAscii "no-cache"] else []
  index_of_fallback : (bundle.resolve path).isFallback = true →
    (bundle.resolve path).asset = bundle.indexAsset ∧
      bundle.files.lookup Assets.indexName = some (bundle.resolve path).asset.body

/-! ### Frames of answers out of the bundle -/

/-- A length that was announced is not announced again. -/
theorem announceLength_of_has {response : Response}
    (h : response.headers.has .contentLength = true) : announceLength response = response := by
  rw [announceLength]
  cases response.body.size? with
  | none => rfl
  | some size => simp [Headers.setIfAbsent, h]

theorem announceLength_serve (method : Method) (resolution : Assets.Resolution) :
    announceLength (Assets.Bundle.serve method resolution) =
      Assets.Bundle.serve method resolution := by
  refine announceLength_of_has ((Headers.has_iff_values_ne_nil _ _).mpr ?_)
  rw [(Assets.Bundle.values_serve method resolution).2.1]
  exact List.cons_ne_nil _ _

/-- The frame of the answer to a `HEAD` is that of the answer to a `GET` without the body. -/
theorem frame_head_respond (bundle : Assets.Bundle) (path : String) :
    frame .head (bundle.respond .head path) =
      (frame .get (bundle.respond .get path)).withoutBody := by
  rw [frame_of_ne_connect (by decide), frame_of_ne_connect (by decide), if_pos rfl,
    if_neg (by decide)]
  cases h : bundle.location? path with
  | none =>
    rw [Assets.Bundle.respond_of_location?_eq_none h, Assets.Bundle.respond_of_location?_eq_none h,
      announceLength_serve, announceLength_serve]
    rfl
  | some location =>
    rw [Assets.Bundle.respond_of_location?_eq_some h, Assets.Bundle.respond_of_location?_eq_some h]
    rfl

theorem isStatic_frame_respond (bundle : Assets.Bundle) (path : String) (id : HeaderValue) :
    IsStatic bundle path
      (Http.RequestId.answer (some id) (frame .get (bundle.respond .get path))) := by
  have hstatus : (Http.RequestId.answer (some id) (frame .get (bundle.respond .get path))).status =
      (bundle.respond .get path).status := by
    rw [Http.RequestId.status_answer, status_frame]
  have hvalues : ∀ name, name ≠ .xRequestId → name ≠ .contentLength →
      (Http.RequestId.answer (some id) (frame .get (bundle.respond .get path))).headers.values
        name = (bundle.respond .get path).headers.values name := by
    intro name hid hlength
    rw [Http.RequestId.values_answer_of_ne _ _ hid, values_frame_of_ne _ _ hlength]
  have hserved : (bundle.respond .get path).status = 200 →
      bundle.respond .get path = Assets.Bundle.serve .get (bundle.resolve path) := by
    intro hok
    refine Assets.Bundle.respond_of_location?_eq_none ?_ .get
    rw [Assets.Bundle.status_respond] at hok
    cases h : bundle.location? path with
    | none => rfl
    | some location => simp [h] at hok
  obtain ⟨htype, hlength, hcache⟩ := Assets.Bundle.values_serve .get (bundle.resolve path)
  refine ⟨?moved, ?found, ?location, ?body, ?type, ?length, ?cache, ?index⟩
  case moved =>
    intro hlocation
    rw [hstatus, Assets.Bundle.status_respond,
      if_pos (Assets.Bundle.isSome_location?_iff.mpr hlocation)]
  case found =>
    intro hnone
    rw [hstatus, Assets.Bundle.status_respond,
      if_neg fun h ↦ hnone (Assets.Bundle.isSome_location?_iff.mp h)]
  case location =>
    intro hmoved
    obtain ⟨value, hvalue, htext, -⟩ :=
      Assets.Bundle.exists_location_of_status_respond (hstatus ▸ hmoved)
    exact ⟨value, (hvalues _ (by decide) (by decide)).trans hvalue, htext⟩
  case body =>
    intro hok
    rw [Http.RequestId.body_answer, body_frame_of_ne_connect (by decide), if_neg (by decide),
      hserved (hstatus ▸ hok)]
    rfl
  case type =>
    intro hok
    rw [hvalues _ (by decide) (by decide), hserved (hstatus ▸ hok), htype]
  case length =>
    intro hok
    rw [Http.RequestId.values_answer_of_ne _ _ (by decide), frame_of_ne_connect (by decide),
      if_neg (by decide), hserved (hstatus ▸ hok), announceLength_serve, hlength]
  case cache =>
    intro hok
    rw [hvalues _ (by decide) (by decide), hserved (hstatus ▸ hok), hcache]
  case index =>
    intro hfallback
    have hindex := Assets.Bundle.resolve_eq_of_isFallback hfallback
    exact ⟨hindex, by rw [hindex]; exact bundle.lookup_index⟩

/-! ### The assembled gateway -/

/-- What is not proxied is answered out of the bundle, for the two methods that it takes. -/
theorem handle_of_static (request : Request)
    (htable : Table.ofBeginnings extra = .ok gateway.routes)
    (hslash : Routing.startsWithSlash request.uri.path = true)
    (hprobe : request.uri.path ≠ probePath)
    (hstatic : ¬∃ literal ∈ defaultBeginnings ++ extra, literal.toList <+: request.uri.path.toList)
    (hmethod : request.method = .get ∨ request.method = .head) (server : Server)
    (fresh : HeaderValue) :
    (gateway.handle server fresh request).response =
      Http.RequestId.answer (some ((request.headers.get? .xRequestId).getD fresh))
        (frame request.method (gateway.bundle.respond request.method request.uri.path)) := by
  have hkept : ¬gateway.IsForwarded request := by
    rw [isForwarded_iff htable hslash]
    exact fun h ↦ hstatic h.2
  obtain ⟨-, -, hroutes⟩ := Routing.ofBeginnings_eq_ok_iff.mp htable
  have hdecision : gateway.routes.resolve request.method request.uri.path = .handled .static := by
    rw [hroutes, Routing.resolve_rulesFor, Decision.ofBeginnings, if_neg hprobe, if_neg hstatic,
      if_pos hmethod]
  have hown : ownResponse gateway.routes gateway.bundle request.method request.uri.path =
      gateway.bundle.respond request.method request.uri.path := by
    rw [ownResponse, if_pos hslash, hdecision]
  exact (congrArg Relay.Exchange.response
    (handle_of_not_isForwarded hkept gateway.target server fresh)).trans (by rw [hown])

/-- The request with another method. -/
def withMethod (request : Request) (method : Method) : Request :=
  { request with method := method }

/-- Where a path is neither probed nor proxied, a `GET` is answered out of the bundle, with a
redirect where there is a location that can be written and else with a file, whatever the path. A
`HEAD` gets the same answer without its body, up to the generated identifier. -/
theorem isStatic_handle (htable : Table.ofBeginnings extra = .ok gateway.routes)
    (hslash : Routing.startsWithSlash request.uri.path = true)
    (hprobe : request.uri.path ≠ probePath)
    (hstatic : ¬∃ literal ∈ defaultBeginnings ++ extra,
      literal.toList <+: request.uri.path.toList)
    (getServer headServer : Server) (getFresh headFresh : HeaderValue) :
    IsStatic gateway.bundle request.uri.path
      (gateway.handle getServer getFresh (withMethod request .get)).response ∧
    IsSameUpToId request
      (gateway.handle getServer getFresh (withMethod request .get)).response.withoutBody
      (gateway.handle headServer headFresh (withMethod request .head)).response := by
  have hget := handle_of_static (withMethod request .get) htable hslash hprobe hstatic
    (Or.inl rfl) getServer getFresh
  have hhead := handle_of_static (withMethod request .head) htable hslash hprobe hstatic
    (Or.inr rfl) headServer headFresh
  constructor
  · rw [hget]
    exact isStatic_frame_respond gateway.bundle request.uri.path _
  · have hsame := isSameUpToId_answer request
      (frame .get (gateway.bundle.respond .get request.uri.path)).withoutBody getFresh headFresh
    rw [hget, hhead, withMethod, withMethod, frame_head_respond]
    exact hsame

/-- A gateway with the given files and no proxied beginnings of its own. -/
def ofBundle (bundle : Assets.Bundle) : Gateway :=
  (ofTarget ⟨.http, "127.0.0.1", 9000, "", none⟩).withBundle bundle

/-- A bundle with an index document of four octets and a directory with one of its own. -/
def shellBundle : Assets.Bundle where
  files := [(Assets.indexName, ⟨#[60, 97, 47, 62]⟩), ("docs/index.html", .empty)]
  index := ⟨#[60, 97, 47, 62]⟩
  nodup_keys := by decide
  lookup_index := rfl

/-- The answer of a gateway with that bundle. -/
def shellAnswer (server : Server) (fresh : HeaderValue) (path : String) (method : Method) :
    Response :=
  ((ofBundle shellBundle).handle server fresh (withMethod (requestAt path) method)).response

/-- A directory is redirected alike for both methods, and a path that no file has is given the index
document, for a `HEAD` without its octets, whatever servers lie behind the gateway and whichever
identifiers are generated. -/
theorem isStatic_handle_docs :
    Table.ofBeginnings [] = .ok (ofBundle shellBundle).routes ∧
      (shellAnswer .unreachable (.ofAscii "id-1") "/docs" .get).status = 301 ∧
      (shellAnswer brokenServer (.ofAscii "id-2") "/docs" .head).status = 301 ∧
      (shellAnswer brokenServer (.ofAscii "id-2") "/docs" .head).body = .empty ∧
      (shellAnswer .unreachable (.ofAscii "id-1") "/calls" .get).status = 200 ∧
      (shellAnswer .unreachable (.ofAscii "id-1") "/calls" .get).body =
        .sized ⟨#[60, 97, 47, 62]⟩ ∧
      (shellAnswer .unreachable (.ofAscii "id-1") "/calls" .get).headers.values .contentLength =
        [.ofAscii "4"] ∧
      (shellAnswer .unreachable (.ofAscii "id-1") "/calls" .get).headers.values .cacheControl =
        [.ofAscii "no-cache"] ∧
      (shellAnswer brokenServer (.ofAscii "id-2") "/calls" .head).body = .empty ∧
      (shellAnswer brokenServer (.ofAscii "id-2") "/calls" .head).headers.values .contentLength =
        [.ofAscii "4"] := by
  have htable : Table.ofBeginnings [] = .ok (ofBundle shellBundle).routes :=
    Routing.ofBeginnings_nil
  have hslash : ∀ path ∈ ["/docs", "/calls"],
      Routing.startsWithSlash (requestAt path).uri.path = true := by decide
  obtain ⟨hdocs, hdocsHead⟩ := isStatic_handle htable (hslash "/docs" (by decide)) (by decide)
    (by decide) .unreachable brokenServer (.ofAscii "id-1") (.ofAscii "id-2")
  obtain ⟨hcalls, hcallsHead⟩ := isStatic_handle htable (hslash "/calls" (by decide)) (by decide)
    (by decide) .unreachable brokenServer (.ofAscii "id-1") (.ofAscii "id-2")
  have hmoved : ∃ location, shellBundle.redirect? "/docs" = some location ∧
      ∀ c ∈ location.toList, isFieldChar c = true :=
    ⟨"/docs/", by decide, List.all_eq_true.mp (by decide)⟩
  have hstatus := hdocs.status_of_location hmoved
  have hkept : ¬∃ location, shellBundle.redirect? "/calls" = some location ∧
      ∀ c ∈ location.toList, isFieldChar c = true := by
    rintro ⟨location, hlocation, -⟩
    have hnone : shellBundle.redirect? "/calls" = none := by decide
    exact Option.some_ne_none location (hlocation.symm.trans hnone)
  have hok := hcalls.status_of_no_location hkept
  have hlength := (hcalls.values_contentLength hok).trans
    (show [HeaderValue.ofNat (shellBundle.resolve "/calls").asset.body.size] = [.ofAscii "4"] by
      decide)
  have hcache := (hcalls.values_cacheControl hok).trans (if_pos (by decide))
  refine ⟨htable, hstatus, hdocsHead.status_eq.symm.trans hstatus, hdocsHead.body_eq.symm, hok,
    hcalls.body_eq hok, hlength, hcache, hcallsHead.body_eq.symm, ?_⟩
  exact (hcallsHead.values_eq _ (by decide)).symm.trans hlength

/-- A bundle with a directory whose name is not ASCII. -/
def accentedBundle : Assets.Bundle where
  files := [(Assets.indexName, .empty), ("é/index.html", .empty)]
  index := .empty
  nodup_keys := by decide
  lookup_index := rfl

/-- A location need not be readable: characters outside ASCII are written as well. -/
theorem status_of_accented_path :
    Http.Uri.parse "/é" = .ok (requestAt "/é").uri ∧
      Table.ofBeginnings [] = .ok (ofBundle accentedBundle).routes ∧
      accentedBundle.redirect? "/é" = some "/é/" ∧
      ((ofBundle accentedBundle).handle .unreachable (.ofAscii "id-1")
        (withMethod (requestAt "/é") .get)).response.status = 301 ∧
      ¬((¬∃ location, accentedBundle.redirect? "/é" = some location ∧
          ∀ c ∈ location.toList, isReadableChar c = true) →
        ((ofBundle accentedBundle).handle .unreachable (.ofAscii "id-1")
          (withMethod (requestAt "/é") .get)).response.status = 200) := by
  have htable : Table.ofBeginnings [] = .ok (ofBundle accentedBundle).routes :=
    Routing.ofBeginnings_nil
  have hlocation : accentedBundle.redirect? "/é" = some "/é/" := by decide
  have hstatus : ((ofBundle accentedBundle).handle .unreachable (.ofAscii "id-1")
      (withMethod (requestAt "/é") .get)).response.status = 301 := by
    rw [handle_of_static (withMethod (requestAt "/é") .get) htable (by decide)
      (by decide) (by decide) (Or.inl rfl)]
    decide
  have hunreadable : ¬∃ location, accentedBundle.redirect? "/é" = some location ∧
      ∀ c ∈ location.toList, isReadableChar c = true := by
    rintro ⟨location, hother, hreadable⟩
    obtain rfl : "/é/" = location := Option.some.inj (hlocation.symm.trans hother)
    exact absurd (hreadable 'é' (by decide)) (by decide)
  refine ⟨rfl, htable, hlocation, hstatus, fun hclaim ↦ ?_⟩
  rw [hstatus] at hclaim
  exact absurd (hclaim hunreadable) (by decide)

end Gateway

end WebGateway
