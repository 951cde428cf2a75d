import WebGateway.Assets.Load
import WebGateway.Config.OfFlags
import WebGateway.Gateway
import WebGateway.Logging.Event
import WebGateway.Net.Network
import WebGateway.Tls.Identity

/-!
# Starting the gateway

The steps of a start follow each other in a fixed order: the flags become settings; the identity of
an encrypted listener is loaded, then the bundle, then the authorities that vouch for the API
server; a socket is bound last. The first step that fails ends the start with its error, so nothing
listens unless everything else is in place. What happens on the way is reported as events, also when
the start fails.
-/

set_option autoImplicit false
set_option relaxedAutoImplicit false

namespace WebGateway.Service

open Config (Settings TlsFiles Trust)
open Logging (Event)
open Net (Network SocketAddress)

/-- Why the gateway does not start. -/
inductive StartError where
  | settings (cause : Config.SettingsError)
  | identity (cause : Tls.IdentityError)
  | bundle (cause : Assets.LoadError)
  | authorities (cause : Tls.AuthorityError)
  | listener (host : String) (port : UInt16) (cause : Net.BindError)
deriving DecidableEq, Repr

namespace StartError

def message : StartError → String
  | settings cause => cause.message
  | identity cause => "failed to load TLS certificate/key pair: " ++ cause.message
  | bundle cause => "failed to load web UI bundle: " ++ cause.message
  | authorities cause => "failed to set up upstream transport: " ++ cause.message
  | listener host port cause =>
    "Failed to bind " ++ host ++ ":" ++ toString port.toNat ++ ": " ++ cause.message

/-- The name of the step that failed. -/
def action : StartError → String
  | settings (.badTarget _) => "urlparse"
  | settings _ => "config"
  | identity _ => "tls"
  | bundle _ => "assets"
  | authorities _ => "transport"
  | listener _ _ _ => "listen"

end StartError

/-! ### Events -/

namespace Report

def settingsLoaded (settings : Settings) : Event where
  level := .info
  source := "libre_webui"
  message := "Configuration loaded"
  details := [
    ("listen", settings.address),
    ("upstream", settings.target.display),
    ("tls", toString settings.tls.isSome),
    ("webroot", settings.webRoot)]

def identityLoaded (files : TlsFiles) : Event where
  level := .debug
  source := "libre_webui::net::tls"
  message := "TLS certificate loaded"
  details := [("cert", files.certificate), ("key", files.key), ("domain", files.domain)]

def assetSkipped (path : List UInt8) : Event where
  level := .warn
  source := "libre_webui::assets::bundle"
  message := "Skipping asset with non UTF-8 name"
  details := [("path", Assets.shownPath path)]

def bundleLoaded (root : String) (bundle : Assets.Bundle) : Event where
  level := .debug
  source := "libre_webui::assets::bundle"
  message := "Asset bundle loaded"
  details := [("root", root), ("files", toString bundle.size)]

/-- The authorities that the machine trusts by itself are no part of a start; none is counted. -/
def authoritiesSought : Event where
  level := .debug
  source := "libre_webui::proxy::transport"
  message := "Loaded platform trust anchors"
  details := [("added", "0"), ("ignored", "0")]

def unverified (target : Backend.Target) : Event where
  level := .warn
  source := "libre_webui::proxy::forwarder"
  message := "Upstream certificate verification disabled"
  details := [("upstream", target.display)]

def prepared (settings : Settings) (bundle : Assets.Bundle) : Event where
  level := .info
  source := "libre_webui::lifecycle::startup"
  message := "Subsystems initialized"
  details := [
    ("upstream", settings.target.display),
    ("proxy_prefixes", Logging.bracketed settings.forwardedBeginnings),
    ("assets", toString bundle.size),
    ("verify_upstream", toString !settings.trust.skipsVerification)]

def bound (socket : SocketAddress) : Event where
  level := .info
  source := "libre_webui::net::listener"
  message := "Listener bound"
  details := [("address", socket.toText)]

end Report

/-! ### Steps -/

/-- What a start has done so far: the events that it reported and the sockets that listen. -/
structure Progress where
  events : List Event
  network : Network

/-- A part of a start. It may fail, and what it did until then stays done. -/
abbrev Start :=
  ExceptT StartError (StateM Progress)

def report (events : List Event) : Start Unit :=
  modify fun progress ↦ { progress with events := progress.events ++ events }

/-- A step that only looks at the disk or at the flags. -/
def attempt {ε α : Type} (wrap : ε → StartError) (result : Except ε α) : Start α :=
  liftExcept (result.mapError wrap)

/-- The settings that flags stand for. -/
def readSettings (disk : Disk.Node) (flags : Config.Flags) : Start Settings := do
  let settings ← attempt .settings (Settings.ofFlags disk flags)
  report [Report.settingsLoaded settings]
  return settings

/-- The identity of the listener, if it is to be encrypted. -/
def loadIdentity (disk : Disk.Node) : Option TlsFiles → Start (Option Tls.Identity)
  | none => return none
  | some files => do
    let identity ← attempt .identity (Tls.Identity.load disk files.certificate files.key)
    report [Report.identityLoaded files]
    return some identity

def loadBundle (disk : Disk.Node) (root : String) : Start Assets.Bundle := do
  let reached ← attempt .bundle (Assets.reach disk root)
  report (reached.skipped.map Report.assetSkipped)
  let bundle ← attempt .bundle reached.bundle
  report [Report.bundleLoaded root bundle]
  return bundle

/-- The authorities that vouch for the API server; without a file nobody has to. -/
def loadAuthorities (disk : Disk.Node) (target : Backend.Target) :
    Trust → Start (List (List UInt8))
  | .anyone => do
    if target.isTls then report [Report.unverified target]
    return []
  | .authoritiesIn file => do
    report [Report.authoritiesSought]
    attempt .authorities (Tls.readAuthorities disk file)

/-- Makes a socket listen. -/
def bind (host : String) (port : UInt16) : Start SocketAddress := do
  let socket ← attempt (.listener host port) ((← get).network.bind host port)
  modify fun progress ↦ { progress with network := progress.network.listen socket }
  report [Report.bound socket]
  return socket

/-! ### Starting -/

/-- A gateway that listens. -/
structure Running where
  gateway : Gateway
  identity : Option Tls.Identity
  authorities : List (List UInt8)
  socket : SocketAddress

/-- The listener is encrypted. -/
def Running.isTls (running : Running) : Bool :=
  running.identity.isSome

/-- Starts a gateway from its settings. -/
def start (disk : Disk.Node) (settings : Settings) : Start Running := do
  let identity ← loadIdentity disk settings.tls
  let bundle ← loadBundle disk settings.webRoot
  let authorities ← loadAuthorities disk settings.target settings.trust
  report [Report.prepared settings bundle]
  let socket ← bind settings.host settings.port
  let gateway : Gateway := {
    routes := settings.routes
    target := settings.target
    bundle := bundle
    scheme := if identity.isSome then .https else .http }
  return { gateway, identity, authorities, socket }

/-- Starts a gateway from flags. -/
def startFromFlags (disk : Disk.Node) (flags : Config.Flags) : Start Running := do
  start disk (← readSettings disk flags)

/-- What comes of a start on a network, and what was done. -/
def Start.run {α : Type} (steps : Start α) (network : Network) :
    Except StartError α × Progress :=
  ExceptT.run steps ⟨[], network⟩

end WebGateway.Service
