import WebGateway.Config.Flags
import WebGateway.Disk.Basic
import WebGateway.Text.Blank

/-!
# From flags to settings

The flags are checked in a fixed order, and the first fault is reported: with encryption the domain,
the form of the certificate declaration, the two files; then the URL of the API server; then the
path beginnings.
-/

set_option autoImplicit false
set_option relaxedAutoImplicit false

namespace WebGateway.Config

/-- Why flags make no settings. -/
inductive SettingsError where
  | noDomain
  | badCerts (certs : String)
  | noCertificateFile (path : String)
  | noKeyFile (path : String)
  | badTarget (cause : Backend.TargetError)
  | badTable (cause : Routing.TableError)
deriving DecidableEq, Repr

def SettingsError.message : SettingsError → String
  | noDomain => "domain is required for SSL/TLS"
  | badCerts certs =>
    "invalid syntax declare for tls cert files '" ++ certs ++ "', eg. crt:key"
  | noCertificateFile path => "certificate file not found: " ++ path
  | noKeyFile path => "private key file not found: " ++ path
  | badTarget cause => cause.message
  | badTable cause => cause.message

/-- The certificate and the key of a declaration: two texts with one colon between them. -/
def declaredPair (certs : String) : Except SettingsError (String × String) :=
  match certs.toList.splitOn ':' with
  | [certificate, key] =>
    if certificate = [] ∨ key = [] then .error (.badCerts certs)
    else .ok (String.ofList certificate, String.ofList key)
  | _ => .error (.badCerts certs)

/-- Checks the domain and the files of an encrypted listener. -/
def checkTls (disk : Disk.Node) (domain certs : String) : Except SettingsError TlsFiles := do
  if Text.trimBlanks domain = "" then .error .noDomain
  else
    let (certificate, key) ← declaredPair certs
    if !Disk.isFile disk certificate then .error (.noCertificateFile certificate)
    else if !Disk.isFile disk key then .error (.noKeyFile key)
    else return ⟨certificate, key, Text.trimBlanks domain⟩

/-- The files of the listener, if it is to be encrypted. -/
def tlsFiles (disk : Disk.Node) (flags : Flags) : Except SettingsError (Option TlsFiles) :=
  if flags.tls then (checkTls disk flags.domain flags.certs).map some else .ok none

/-- The settings that flags stand for. -/
def Settings.ofFlags (disk : Disk.Node) (flags : Flags) : Except SettingsError Settings := do
  let tls ← tlsFiles disk flags
  let target ← (Backend.Target.parse flags.api).mapError .badTarget
  let routes ← (Routing.Table.ofBeginnings flags.beginnings).mapError .badTable
  return {
    host := flags.host
    port := flags.port
    target := target
    tls := tls
    debug := flags.debug
    routes := routes
    webRoot := flags.webRoot
    trust := match flags.authorities with
      | some file => .authoritiesIn file
      | none => .anyone }

end WebGateway.Config
