import WebGateway.Proofs.Backend.Rewriting
import WebGateway.Proofs.Relay.Sending

/-!
# Servers that can be used

A configured URL and the target of a request are read by different grammars. They agree on every
path and query that the configuration can bring, on every port and on every address, but not on
names: a URL may name a host with a quotation mark, a backtick or a brace in it, and no request can
be addressed to such a host. So the host alone decides whether the requests of a server can be sent
(`uriFor_of_parse`).
-/

set_option autoImplicit false
set_option relaxedAutoImplicit false

namespace WebGateway.Relay

open Backend (Target isUnwritable)
open Http (Uri maxUriSize)
open Routing (startsWithSlash)

variable {text : String} {target : Target} (h : Target.parse text = .ok target)

include h

theorem exists_uriFor_eq_ok (hhost : ∀ c ∈ target.host.toList, isUnwritable c = false) {uri : Uri}
    (hread : uri.IsRead) (hslash : startsWithSlash uri.path = true)
    (hsize : (target.pathQuery uri).utf8ByteSize ≤ maxUriSize) :
    ∃ built, target.uriFor uri = .ok built :=
  ⟨_, Uri.build_eq_ok_iff.mpr ⟨_, Target.parseAuthority_authority h hhost,
    Target.parsePathQuery_pathQuery h hread hslash hsize, rfl⟩⟩

theorem uriFor_eq_error_of_unwritable (hhost : ∃ c ∈ target.host.toList, isUnwritable c = true)
    (uri : Uri) : target.uriFor uri = .error .badCharacter := by
  rw [Target.uriFor, Uri.build, Target.parseAuthority_authority_of_unwritable h hhost]
  rfl

/-- A server whose host can be written in a request can be sent every request that is not too long,
and a server with any other host can be sent none: each is answered as one that could not be sent
on. -/
theorem uriFor_of_parse :
    ((∀ c ∈ target.host.toList, isUnwritable c = false) →
      ∀ uri : Uri, uri.IsRead → startsWithSlash uri.path = true →
        (target.pathQuery uri).utf8ByteSize ≤ maxUriSize →
        ∃ built, target.uriFor uri = .ok built) ∧
    ((∃ c ∈ target.host.toList, isUnwritable c = true) →
      (∀ uri : Uri, target.uriFor uri = .error .badCharacter) ∧
      ∀ server scheme request, forward server target scheme request = ⟨unsendable, none⟩) := by
  constructor
  · intro hhost uri hread hslash hsize
    exact exists_uriFor_eq_ok h hhost hread hslash hsize
  · intro hhost
    refine ⟨uriFor_eq_error_of_unwritable h hhost, fun server scheme request ↦ ?_⟩
    have herror := uriFor_eq_error_of_unwritable h hhost request.uri
    exact forward_of_sentRequest?_eq_none (sentRequest?_eq_none herror)

omit h

/-- A server whose name has braces in it. -/
def bracedServer : Target :=
  ⟨.http, "a\x7bb\x7d", 80, "", none⟩

theorem parse_bracedServer : Target.parse "http://a\x7bb\x7d/" = .ok bracedServer :=
  toOption_eq_some_iff.mp (by decide +kernel)

/-- What can be sent to a server of another name fails for this one. -/
theorem uriFor_tenantServer_and_bracedServer :
    ∃ uri : Uri, Uri.parse "/libreapi/x?q" = .ok uri ∧
      (∃ built, Target.tenantServer.uriFor uri = .ok built) ∧
      bracedServer.uriFor uri = .error .badCharacter := by
  have huri : Uri.parse "/libreapi/x?q" = .ok ⟨none, none, "/libreapi/x", some "q"⟩ :=
    toOption_eq_some_iff.mp (by decide +kernel)
  refine ⟨_, huri, ?sent, ?refused⟩
  case sent =>
    have hhost : Target.tenantServer.host.toList.all (fun c ↦ !isUnwritable c) = true := by
      decide +kernel
    refine (uriFor_of_parse Target.parse_tenantServer).1 (fun c hc ↦ ?_) _ (.text huri) ?_ ?_
    · simpa using List.all_eq_true.mp hhost c hc
    · decide +kernel
    · decide +kernel
  case refused =>
    have hbrace : ∃ c ∈ bracedServer.host.toList, isUnwritable c = true :=
      ⟨'\x7b', by decide +kernel, by decide +kernel⟩
    exact ((uriFor_of_parse parse_bracedServer).2 hbrace).1 _

/-- A short request for a path has no target at a server that the configuration accepts. -/
theorem uriFor_bracedServer :
    Target.parse "http://a\x7bb\x7d/" = .ok bracedServer ∧
      ∃ uri : Uri, Uri.parse "/libreapi/x" = .ok uri ∧ startsWithSlash uri.path = true ∧
        (bracedServer.pathQuery uri).utf8ByteSize ≤ maxUriSize ∧
        bracedServer.uriFor uri = .error .badCharacter := by
  have huri : Uri.parse "/libreapi/x" = .ok ⟨none, none, "/libreapi/x", none⟩ :=
    toOption_eq_some_iff.mp (by decide +kernel)
  refine ⟨parse_bracedServer, _, huri, by decide +kernel, by decide +kernel, ?_⟩
  exact uriFor_eq_error_of_unwritable parse_bracedServer
    ⟨'\x7b', by decide +kernel, by decide +kernel⟩ _

end WebGateway.Relay
