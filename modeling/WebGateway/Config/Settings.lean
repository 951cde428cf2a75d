import WebGateway.Backend.Target
import WebGateway.Routing.Table

/-!
# Settings

What the gateway is told to do: where to listen, which API server to forward to, whom to trust, and
where its assets lie. The texts that are derived from the settings alone are here as well.
-/

set_option autoImplicit false
set_option relaxedAutoImplicit false

namespace WebGateway.Config

/-- The certificate and key files of an encrypted listener, and the name they are made for. -/
structure TlsFiles where
  certificate : String
  key : String
  domain : String
deriving DecidableEq, Repr

/-- Whether the certificate of the API server is checked, and against which file. -/
inductive Trust where
  | anyone
  | authoritiesIn (file : String)
deriving DecidableEq, Repr

def Trust.skipsVerification : Trust → Bool
  | anyone => true
  | authoritiesIn _ => false

def Trust.file? : Trust → Option String
  | anyone => none
  | authoritiesIn file => some file

structure Settings where
  host : String
  port : UInt16
  target : Backend.Target
  tls : Option TlsFiles
  debug : Bool
  routes : Routing.Table
  webRoot : String
  trust : Trust
deriving DecidableEq, Repr

/-- The directory of the assets when none is given. -/
def defaultWebRoot : String :=
  "webui"

/-- Which log lines are shown by default, with and without the lines for debugging. -/
def impliedDirectives (debug : Bool) : String :=
  if debug then "libre_webui=debug,tower_http=debug,info"
  else "libre_webui=info,tower_http=info,warn"

namespace Settings

/-- The address that the listener is bound to. -/
def address (settings : Settings) : String :=
  Backend.Target.bracketed settings.host ++ ":" ++ toString settings.port.toNat

/-- The URL under which people reach the gateway. -/
def url (settings : Settings) : String :=
  match settings.tls with
  | some files =>
    "https://" ++ files.domain ++
      if settings.port = 443 then "" else ":" ++ toString settings.port.toNat
  | none => "http://" ++ settings.address

/-- The path beginnings that are forwarded, in the order of the table. -/
def forwardedBeginnings (settings : Settings) : List String :=
  (settings.routes.rules.filter fun rule ↦ rule.handler = .proxy).map fun rule ↦
    rule.pattern.literal

/-- What is shown on standard output when the gateway comes up. -/
def banner (settings : Settings) : String :=
  String.intercalate "\n" [
    "",
    "      +-+-+-+-+-+-+-+-+ +-+-+-+-+-+",
    "      |L|I|B|R|E|S|B|C| |W|E|B|U|I|",
    "      +-+-+-+-+-+-+-+-+ +-+-+-+-+-+",
    "",
    "      LibreSBC WebUI - v0.1.0",
    "",
    "      Listen    " ++ settings.address,
    "      LibreSBC  " ++ settings.target.display,
    "      Debug     " ++ toString settings.debug,
    "",
    "      Access via browser at: " ++ settings.url,
    "    --------------------------------------------------",
    ""]

/-- Which log lines are shown when the environment does not say. -/
def logDirectives (settings : Settings) : String :=
  impliedDirectives settings.debug

end Settings

end WebGateway.Config
