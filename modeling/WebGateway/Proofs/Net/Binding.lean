import WebGateway.Net.Network
import WebGateway.Proofs.Results

/-!
# Which socket listens

The socket that listens at a host is the one of the first of its addresses that is admitted
(`toOption_bind`). Nothing is known of the answer beforehand: at a host that has an address each
answer of the operating system is the answer of some network, whatever listens there already
(`exists_bind_eq`).
-/

set_option autoImplicit false
set_option relaxedAutoImplicit false

namespace WebGateway.Net.Network

/-- Of answers that are asked for in turn, the first that is no error counts. -/
theorem toOption_foldl_orElse {α β ε : Type} (answer : α → Except ε β) (first : Except ε β)
    (list : List α) :
    (list.foldl (fun result x ↦ result <|> answer x) first).toOption =
      first.toOption.or (list.findSome? fun x ↦ (answer x).toOption) := by
  induction list generalizing first with
  | nil => cases first <;> rfl
  | cons x rest ih =>
    rw [List.foldl_cons, ih, List.findSome?_cons]
    cases first with
    | ok value => rfl
    | error error => cases answer x <;> rfl

/-- A socket listens at the first address of a host that is admitted. -/
theorem toOption_bind (network : Network) (host : String) (port : UInt16) :
    (network.bind host port).toOption =
      (network.addresses (bareHost host)).findSome? fun ip ↦ (network.ask port ip).toOption := by
  have hwrap : ∀ result : Except SystemError SocketAddress,
      (result.mapError BindError.refused).toOption = result.toOption := fun result ↦ by
    cases result <;> rfl
  rw [bind]
  cases network.addresses (bareHost host) with
  | nil => rfl
  | cons ip others =>
    rw [hwrap, toOption_foldl_orElse, List.findSome?_cons]
    cases (network.ask port ip).toOption <;> rfl

/-- Whatever listens already, any answer may come to a socket at any host. -/
theorem exists_bind_eq (listening : List SocketAddress) (host : String) (port : UInt16)
    (answer : Except SystemError SocketAddress) :
    ∃ network : Network, network.listening = listening ∧
      network.bind host port = answer.mapError .refused := by
  let network : Network := {
    names := [(bareHost host, .v4 ⟨127, 0, 0, 1⟩)]
    listening := listening
    answer := fun _ _ ↦ answer }
  have hasked : ∃ ip, network.addresses (bareHost host) = [ip] := by
    rw [addresses]
    cases IpAddress.parse? (bareHost host) with
    | some ip => exact ⟨ip, rfl⟩
    | none => exact ⟨.v4 ⟨127, 0, 0, 1⟩, by simp [network]⟩
  obtain ⟨ip, hip⟩ := hasked
  refine ⟨network, rfl, ?_⟩
  simp only [bind, hip, List.foldl_nil]
  rfl

end WebGateway.Net.Network
