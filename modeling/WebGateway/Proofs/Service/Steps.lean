import WebGateway.Service.Start

/-!
# What the steps of a start come to

A start reports what it does on the way, and what it reports has no part in how it ends. Steps
therefore come to an ending that is a function of the network alone (`Start.ComesTo`), and all steps
but the last have the same result on every network and leave it as it is (`Start.Yields`). The
ending of a start is put together from the results of its parts (`comesTo_startFromFlags`): the
network is asked for a socket only after all of them, and changes only where the socket is given.
-/

set_option autoImplicit false
set_option relaxedAutoImplicit false

namespace WebGateway.Service

open Config (Settings TlsFiles Trust)
open Logging (Event)
open Net (Network SocketAddress)

/-! ### What steps come to -/

section Steps

variable {α β ε : Type} {steps : Start α} {rest : α → Start β}

/-- How steps end and which network they leave, whatever was reported before them. What they report
themselves is left open. -/
def Start.ComesTo (steps : Start α) (ending : Network → Except StartError α × Network) : Prop :=
  ∀ progress, ∃ events, ExceptT.run steps progress =
    ((ending progress.network).1, ⟨progress.events ++ events, (ending progress.network).2⟩)

/-- Steps that end in one way on every network and leave the network as it is. -/
abbrev Start.Yields (steps : Start α) (result : Except StartError α) : Prop :=
  steps.ComesTo fun network ↦ (result, network)

/-- What is done after a result; after an error nothing is. -/
def endAfter (result : Except StartError α) (after : α → Network → Except StartError β × Network)
    (network : Network) : Except StartError β × Network :=
  match result with
  | .ok value => after value network
  | .error error => (.error error, network)

theorem yields_pure (value : α) : (pure value : Start α).Yields (.ok value) :=
  fun progress ↦ ⟨[], by simp; rfl⟩

theorem yields_report (events : List Event) : (report events).Yields (.ok ()) :=
  fun _ ↦ ⟨events, rfl⟩

theorem yields_attempt (wrap : ε → StartError) (result : Except ε α) :
    (attempt wrap result).Yields (result.mapError wrap) := by
  intro progress
  cases result <;> exact ⟨[], by simp; rfl⟩

theorem run_bind_of_ok {progress next : Progress} {value : α}
    (h : ExceptT.run steps progress = (.ok value, next)) :
    ExceptT.run (steps >>= rest) progress = ExceptT.run (rest value) next := by
  rw [ExceptT.run_bind]
  simp only [Bind.bind, StateT.bind, h]

theorem run_bind_of_error {progress next : Progress} {error : StartError}
    (h : ExceptT.run steps progress = (.error error, next)) :
    ExceptT.run (steps >>= rest) progress = (.error error, next) := by
  rw [ExceptT.run_bind]
  simp only [Bind.bind, StateT.bind, h]
  rfl

/-- What is made of the value in the end changes nothing else. -/
theorem Start.ComesTo.map {ending : Network → Except StartError α × Network}
    (h : steps.ComesTo ending) (f : α → β) :
    (do return f (← steps) : Start β).ComesTo
      fun network ↦ ((ending network).1.map f, (ending network).2) := by
  intro progress
  obtain ⟨events, hsteps⟩ := h progress
  refine ⟨events, ?_⟩
  cases hending : (ending progress.network).1 with
  | error error =>
    rw [hending] at hsteps
    simp only [run_bind_of_error hsteps, hending]
    rfl
  | ok value =>
    rw [hending] at hsteps
    simp only [run_bind_of_ok hsteps, hending]
    rfl

/-- Steps that follow a value go on from it, on the network as it was. -/
theorem Start.Yields.andThen {value : α} {ending : Network → Except StartError β × Network}
    (h : steps.Yields (.ok value)) (hrest : (rest value).ComesTo ending) :
    (steps >>= rest).ComesTo ending := by
  intro progress
  obtain ⟨events, hsteps⟩ := h progress
  obtain ⟨others, hvalue⟩ := hrest ⟨progress.events ++ events, progress.network⟩
  refine ⟨events ++ others, ?_⟩
  rw [run_bind_of_ok hsteps, hvalue, List.append_assoc]

/-- Steps that follow others go on from the value that those yield, if they yield one. -/
theorem Start.Yields.bind {result : Except StartError α}
    {after : α → Network → Except StartError β × Network} (h : steps.Yields result)
    (hrest : ∀ value, result = .ok value → (rest value).ComesTo (after value)) :
    (steps >>= rest).ComesTo (endAfter result after) := by
  cases result with
  | error error =>
    intro progress
    obtain ⟨events, hsteps⟩ := h progress
    exact ⟨events, run_bind_of_error hsteps⟩
  | ok value => exact h.andThen (hrest value rfl)

/-- Steps that follow others and yield a result of their own. -/
theorem Start.Yields.bind_yields {result : Except StartError α}
    {next : α → Except StartError β} (h : steps.Yields result)
    (hrest : ∀ value, result = .ok value → (rest value).Yields (next value)) :
    (steps >>= rest).Yields (result >>= next) := by
  have hbind := h.bind hrest
  cases result <;> exact hbind

/-- A report after other steps changes nothing of what they come to. -/
theorem Start.Yields.reported {result : Except StartError α} (h : steps.Yields result)
    (events : α → List Event) (f : α → β) :
    (do
      let value ← steps
      report (events value)
      return f value : Start β).Yields (result.map f) := by
  have hbind := h.bind_yields fun value _ ↦
    (yields_report (events value)).bind_yields fun _ _ ↦ yields_pure (f value)
  cases result <;> exact hbind

end Steps

/-! ### The parts of a start -/

section Parts

variable (disk : Disk.Node)

theorem yields_readSettings (flags : Config.Flags) :
    (readSettings disk flags).Yields ((Settings.ofFlags disk flags).mapError .settings) := by
  have h := (yields_attempt .settings (Settings.ofFlags disk flags)).reported
    (fun settings ↦ [Report.settingsLoaded settings]) id
  rwa [Except.map_id] at h

/-- The identity that files give an encrypted listener. -/
def identityFor (disk : Disk.Node) : Option TlsFiles → Except StartError (Option Tls.Identity)
  | none => .ok none
  | some files =>
    ((Tls.Identity.load disk files.certificate files.key).mapError .identity).map some

theorem yields_loadIdentity (files : Option TlsFiles) :
    (loadIdentity disk files).Yields (identityFor disk files) := by
  cases files with
  | none => exact yields_pure none
  | some files =>
    exact (yields_attempt .identity (Tls.Identity.load disk files.certificate files.key)).reported
      (fun _ ↦ [Report.identityLoaded files]) some

theorem yields_loadBundle (root : String) :
    (loadBundle disk root).Yields
      ((Assets.reach disk root).mapError .bundle >>= fun reached ↦
        reached.bundle.mapError .bundle) := by
  refine (yields_attempt .bundle (Assets.reach disk root)).bind_yields fun reached _ ↦ ?_
  have h := (yields_attempt .bundle reached.bundle).reported
    (fun bundle ↦ [Report.bundleLoaded root bundle]) id
  rw [Except.map_id] at h
  exact (yields_report (reached.skipped.map Report.assetSkipped)).andThen h

/-- The certificates of the authorities that are trusted. -/
def authoritiesFor (disk : Disk.Node) : Trust → Except StartError (List (List UInt8))
  | .anyone => .ok []
  | .authoritiesIn file => (Tls.readAuthorities disk file).mapError .authorities

theorem yields_loadAuthorities (target : Backend.Target) (trust : Trust) :
    (loadAuthorities disk target trust).Yields (authoritiesFor disk trust) := by
  cases trust with
  | anyone =>
    cases htls : target.isTls with
    | true =>
      simp only [loadAuthorities, htls, if_true]
      refine (yields_report [Report.unverified target]).andThen ?_
      exact yields_pure []
    | false =>
      simp only [loadAuthorities, htls, Bool.false_eq_true, if_false]
      exact yields_pure []
  | authoritiesIn file =>
    exact (yields_report [Report.authoritiesSought]).andThen
      (yields_attempt .authorities (Tls.readAuthorities disk file))

/-- The answer of a network to a socket that is to listen, and the network with it. -/
def listenAt (host : String) (port : UInt16) (network : Network) :
    Except StartError SocketAddress × Network :=
  endAfter ((network.bind host port).mapError (.listener host port))
    (fun socket network ↦ (.ok socket, network.listen socket)) network

theorem comesTo_bind (host : String) (port : UInt16) :
    (bind host port).ComesTo (listenAt host port) := by
  intro progress
  have hget : ExceptT.run (get : Start Progress) progress = (.ok progress, progress) := rfl
  have hrun : ExceptT.run (bind host port) progress = _ := run_bind_of_ok hget
  rw [hrun]
  cases h : progress.network.bind host port with
  | error cause =>
    refine ⟨[], ?_⟩
    simp only [listenAt, h, List.append_nil]
    rfl
  | ok socket =>
    refine ⟨[Report.bound socket], ?_⟩
    simp only [listenAt, h]
    rfl

end Parts

/-! ### A start as a whole -/

/-- The gateway that settings make. -/
def Running.of (settings : Settings) (identity : Option Tls.Identity) (bundle : Assets.Bundle)
    (authorities : List (List UInt8)) (socket : SocketAddress) : Running where
  gateway := {
    routes := settings.routes
    target := settings.target
    bundle := bundle
    scheme := if identity.isSome then .https else .http }
  identity := identity
  authorities := authorities
  socket := socket

/-- How a start from settings ends on a network, and the network that it leaves. -/
def startEnding (disk : Disk.Node) (settings : Settings) :
    Network → Except StartError Running × Network :=
  endAfter (identityFor disk settings.tls) fun identity ↦
    endAfter ((Assets.reach disk settings.webRoot).mapError .bundle >>= fun reached ↦
        reached.bundle.mapError .bundle) fun bundle ↦
      endAfter (authoritiesFor disk settings.trust) fun authorities network ↦
        ((listenAt settings.host settings.port network).1.map
            (Running.of settings identity bundle authorities),
          (listenAt settings.host settings.port network).2)

theorem comesTo_start (disk : Disk.Node) (settings : Settings) :
    (start disk settings).ComesTo (startEnding disk settings) := by
  refine (yields_loadIdentity disk settings.tls).bind fun identity _ ↦ ?_
  refine (yields_loadBundle disk settings.webRoot).bind fun bundle _ ↦ ?_
  refine (yields_loadAuthorities disk settings.target settings.trust).bind fun authorities _ ↦ ?_
  exact (yields_report [Report.prepared settings bundle]).andThen
    ((comesTo_bind settings.host settings.port).map
      (Running.of settings identity bundle authorities))

theorem comesTo_startFromFlags (disk : Disk.Node) (flags : Config.Flags) :
    (startFromFlags disk flags).ComesTo
      (endAfter ((Settings.ofFlags disk flags).mapError .settings) (startEnding disk)) :=
  (yields_readSettings disk flags).bind fun settings _ ↦ comesTo_start disk settings

end WebGateway.Service
