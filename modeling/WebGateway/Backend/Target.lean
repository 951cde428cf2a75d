import WebGateway.Url.Basic

/-!
# The API server

The target to which API requests are sent: the origin of a configured URL, with its path in front of
the paths of the requests and its query in front of their queries.
-/

set_option autoImplicit false
set_option relaxedAutoImplicit false

namespace WebGateway.Backend

open Url (UrlError WebScheme WebUrl)

/-- Why a text names no API server. -/
inductive TargetError where
  | badUrl (text : String) (cause : UrlError)
  | notWeb (text : String)
deriving DecidableEq, Repr

def TargetError.message : TargetError → String
  | badUrl text cause => "unable to parse libresbc web API URL '" ++ text ++ "': " ++ cause.message
  | notWeb text => "libresbc web API URL '" ++ text ++ "' must use http or https and name a host"

structure Target where
  scheme : WebScheme
  host : String
  port : UInt16
  basePath : String
  query : Option String
deriving DecidableEq, Repr

namespace Target

/-- The path without the slashes at its end. -/
def trimPath (path : String) : String :=
  String.ofList (Text.trimRight (· == '/') path.toList)

def ofUrl (url : WebUrl) : Target where
  scheme := url.scheme
  host := url.host.toText
  port := url.port
  basePath := trimPath url.path
  query := url.query

/-- The target that a configured URL names. -/
def parse (text : String) : Except TargetError Target :=
  match Url.parse text with
  | .error cause => .error (.badUrl text cause)
  | .ok none => .error (.notWeb text)
  | .ok (some url) => .ok (ofUrl url)

/-- The host, in brackets when it is a bare IPv6 address. -/
def bracketed (host : String) : String :=
  if host.toList.contains ':' && host.toList.head? != some '[' then "[" ++ host ++ "]" else host

/-- The host and the port as they stand in the requests. -/
def authority (target : Target) : String :=
  bracketed target.host ++ ":" ++ toString target.port.toNat

def isTls (target : Target) : Bool :=
  target.scheme = .https

/-- The target as it is shown to people. -/
def display (target : Target) : String :=
  target.scheme.toText ++ "://" ++ target.authority ++ target.basePath

end Target

end WebGateway.Backend
