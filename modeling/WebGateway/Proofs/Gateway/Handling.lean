import WebGateway.Gateway
import WebGateway.Proofs.Relay.Sending
import WebGateway.Proofs.Routing.Decision

/-!
# What the gateway adds around its handlers

Every request is stamped before a handler sees it, and every answer is framed and identified
afterwards. Neither touches more than its own field: the stamp and the identifier are about
`X-Request-Id`, the frame about `Content-Length` and the body (`values_stamp`, `values_frame_of_ne`,
`values_answer_of_ne`). What lies between them is a function of the stamped request
(`handle_eq_dispatch`), and a proxied request is sent on and answered as `Relay.forward` does it
(`handle_of_proxied`).
-/

set_option autoImplicit false
set_option relaxedAutoImplicit false

namespace WebGateway

open Http (HeaderName HeaderValue Headers Method Request Response)
open Relay (Exchange Server)

/-! ### Identifiers -/

namespace Http.RequestId

theorem values_stamp (fresh : HeaderValue) (headers : Headers) (name : HeaderName) :
    (stamp fresh headers).values name =
      if HeaderName.xRequestId = name ∧ headers.values .xRequestId = [] then [fresh]
      else headers.values name :=
  Headers.values_setIfAbsent headers .xRequestId name fresh

theorem values_stamp_of_ne (fresh : HeaderValue) (headers : Headers) {name : HeaderName}
    (h : name ≠ .xRequestId) : (stamp fresh headers).values name = headers.values name :=
  Headers.values_setIfAbsent_of_ne headers fresh h

/-- The identifier of a stamped request is its own first one or the fresh one. -/
theorem get?_stamp (fresh : HeaderValue) (headers : Headers) :
    (stamp fresh headers).get? .xRequestId = some ((headers.get? .xRequestId).getD fresh) := by
  rw [Headers.get?, values_stamp, Headers.get?]
  cases hvalues : headers.values .xRequestId with
  | nil => simp
  | cons first rest => simp

@[simp]
theorem status_answer (id : Option HeaderValue) (response : Response) :
    (answer id response).status = response.status := by
  cases id <;> rfl

@[simp]
theorem body_answer (id : Option HeaderValue) (response : Response) :
    (answer id response).body = response.body := by
  cases id <;> rfl

theorem values_answer (id : HeaderValue) (response : Response) (name : HeaderName) :
    (answer (some id) response).headers.values name =
      if HeaderName.xRequestId = name ∧ response.headers.values .xRequestId = [] then [id]
      else response.headers.values name :=
  Headers.values_setIfAbsent response.headers .xRequestId name id

theorem values_answer_of_ne (id : Option HeaderValue) (response : Response) {name : HeaderName}
    (h : name ≠ .xRequestId) :
    (answer id response).headers.values name = response.headers.values name := by
  cases id with
  | none => rfl
  | some value => exact Headers.values_setIfAbsent_of_ne response.headers value h

end Http.RequestId

/-! ### Frames -/

namespace Gateway

@[simp]
theorem status_announceLength (response : Response) :
    (announceLength response).status = response.status := by
  rw [announceLength]
  cases response.body.size? <;> rfl

@[simp]
theorem body_announceLength (response : Response) :
    (announceLength response).body = response.body := by
  rw [announceLength]
  cases response.body.size? <;> rfl

theorem values_announceLength_of_ne (response : Response) {name : HeaderName}
    (h : name ≠ .contentLength) :
    (announceLength response).headers.values name = response.headers.values name := by
  rw [announceLength]
  cases response.body.size? with
  | none => rfl
  | some size => exact Headers.values_setIfAbsent_of_ne _ _ h

@[simp]
theorem status_frame (method : Method) (response : Response) :
    (frame method response).status = response.status := by
  rw [frame]
  split
  · rfl
  · by_cases hhead : method = .head <;> simp [hhead]

theorem values_frame_of_ne (method : Method) (response : Response) {name : HeaderName}
    (h : name ≠ .contentLength) :
    (frame method response).headers.values name = response.headers.values name := by
  rw [frame]
  split
  · rfl
  · by_cases hhead : method = .head <;> simp [hhead, values_announceLength_of_ne response h]

/-- No answer but that to a `CONNECT` opens a tunnel. -/
theorem frame_of_ne_connect {method : Method} (h : method ≠ .connect) (response : Response) :
    frame method response =
      if method = .head then { announceLength response with body := .empty }
      else announceLength response := by
  rw [frame, if_neg (by simp [opensTunnel, h])]

/-- A `HEAD` takes the body of its answer away. -/
theorem body_frame_of_ne_connect {method : Method} (h : method ≠ .connect) (response : Response) :
    (frame method response).body = if method = .head then .empty else response.body := by
  rw [frame_of_ne_connect h]
  by_cases hhead : method = .head <;> simp [hhead]

/-- An answer with a sized body and no length of its own gets the length of the body. -/
theorem values_contentLength_frame {method : Method} (h : method ≠ .connect) {response : Response}
    {octets : ByteArray} (hbody : response.body = .sized octets)
    (habsent : response.headers.values .contentLength = []) :
    (frame method response).headers.values .contentLength = [.ofNat octets.size] := by
  have hannounced : (announceLength response).headers.values .contentLength =
      [.ofNat octets.size] := by
    rw [announceLength, hbody]
    exact (Headers.values_setIfAbsent _ _ _ _).trans (if_pos ⟨rfl, habsent⟩)
  rw [frame_of_ne_connect h]
  by_cases hhead : method = .head <;> simp [hhead, hannounced]

/-! ### Forwarded requests -/

variable {gateway : Gateway} {request : Request}

/-- The request as the handlers see it. -/
def stamped (fresh : HeaderValue) (request : Request) : Request :=
  { request with headers := Http.RequestId.stamp fresh request.headers }

theorem connectionNames_stamped (fresh : HeaderValue) (request : Request) :
    Relay.connectionNames (stamped fresh request).headers =
      Relay.connectionNames request.headers :=
  Relay.connectionNames_congr (Http.RequestId.values_stamp_of_ne fresh request.headers (by decide))

/-- The request is sent on: its target is a path, and the table leaves the path to the proxy. -/
def IsForwarded (gateway : Gateway) (request : Request) : Prop :=
  Routing.startsWithSlash request.uri.path = true ∧
    gateway.routes.resolve request.method request.uri.path = .handled .proxy

/-- What a handler makes of a request, before its answer is framed and identified. -/
def dispatch (gateway : Gateway) (server : Server) (request : Request) : Exchange :=
  if Routing.startsWithSlash request.uri.path then gateway.route server request
  else ⟨.bare 404, none⟩

/-- Around a handler a request is stamped and its answer framed and identified. -/
theorem handle_eq_dispatch (gateway : Gateway) (server : Server) (fresh : HeaderValue)
    (request : Request) :
    gateway.handle server fresh request =
      { gateway.dispatch server (stamped fresh request) with
        response := Http.RequestId.answer (some ((request.headers.get? .xRequestId).getD fresh))
          (frame request.method
            (gateway.dispatch server (stamped fresh request)).response) } := by
  rw [← Http.RequestId.get?_stamp]
  rfl

theorem dispatch_of_isForwarded (h : gateway.IsForwarded request) (server : Server) :
    gateway.dispatch server request =
      Relay.forward server gateway.target gateway.scheme request := by
  rw [dispatch, if_pos h.1, route, h.2]

/-- A proxied request is passed on with its identifier, and the answer is framed and identified. -/
theorem handle_of_proxied {extra : List String}
    (htable : Routing.Table.ofBeginnings extra = .ok gateway.routes)
    (hproxied : gateway.routes.resolve request.method request.uri.path = .handled .proxy)
    (server : Server) (fresh : HeaderValue) :
    gateway.handle server fresh request =
      { Relay.forward server gateway.target gateway.scheme (stamped fresh request) with
        response := Http.RequestId.answer
          (some ((request.headers.get? .xRequestId).getD fresh))
          (frame request.method
            (Relay.forward server gateway.target gateway.scheme
              (stamped fresh request)).response) } := by
  have hforwarded : gateway.IsForwarded (stamped fresh request) :=
    ⟨Routing.startsWithSlash_of_resolve_eq_proxy htable hproxied, hproxied⟩
  rw [handle_eq_dispatch, dispatch_of_isForwarded hforwarded]

end Gateway

end WebGateway
