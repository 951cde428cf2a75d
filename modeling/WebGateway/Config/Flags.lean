import WebGateway.Config.Settings

/-!
# Flags

The flags of the command line with their names and their defaults, and what can be wrong with them.
-/

set_option autoImplicit false
set_option relaxedAutoImplicit false

namespace WebGateway.Config

/-- The values of all flags. -/
structure Flags where
  host : String := "0.0.0.0"
  port : UInt16 := 8088
  api : String := "http://127.0.0.1:8088"
  debug : Bool := false
  domain : String := ""
  tls : Bool := false
  certs : String := ""
  webRoot : String := defaultWebRoot
  beginnings : List String := []
  authorities : Option String := none
deriving DecidableEq, Repr

/-- The flags that take a value. -/
inductive ValueFlag where
  | host
  | port
  | api
  | domain
  | certs
  | webRoot
  | proxyBeginning
  | authorities
deriving DecidableEq, Repr

/-- The flags that stand alone. -/
inductive Switch where
  | debug
  | tls
  | help
  | version
deriving DecidableEq, Repr

namespace ValueFlag

def all : List ValueFlag :=
  [host, port, api, domain, certs, webRoot, proxyBeginning, authorities]

def long : ValueFlag → String
  | host => "host"
  | port => "port"
  | api => "libresbc"
  | domain => "domain"
  | certs => "certs"
  | webRoot => "webroot"
  | proxyBeginning => "proxy-prefix"
  | authorities => "upstream-ca"

def short? : ValueFlag → Option Char
  | host => some 'H'
  | port => some 'P'
  | api => some 'L'
  | domain => some 'D'
  | certs => some 'c'
  | webRoot => some 'w'
  | proxyBeginning => none
  | authorities => none

/-- How the value is called in messages. -/
def valueName : ValueFlag → String
  | host => "HOST"
  | port => "PORT"
  | api => "LIBRESBC"
  | domain => "DOMAIN"
  | certs => "CERTS"
  | webRoot => "WEBROOT"
  | proxyBeginning => "PREFIX"
  | authorities => "FILE"

/-- The flag as messages show it. -/
def display (flag : ValueFlag) : String :=
  "--" ++ flag.long ++ " <" ++ flag.valueName ++ ">"

/-- The flag may be given more than once. -/
def isRepeatable : ValueFlag → Bool
  | proxyBeginning => true
  | _ => false

/-- The value is a path, which is never empty. -/
def isPath : ValueFlag → Bool
  | webRoot => true
  | authorities => true
  | _ => false

end ValueFlag

namespace Switch

def all : List Switch :=
  [debug, tls, help, version]

def long : Switch → String
  | debug => "debug"
  | tls => "tls"
  | help => "help"
  | version => "version"

def short : Switch → Char
  | debug => 'd'
  | tls => 't'
  | help => 'h'
  | version => 'V'

def display (switch : Switch) : String :=
  "--" ++ switch.long

end Switch

/-- Why a text is no port number. -/
inductive PortError where
  | empty
  | badDigit
  | tooLarge
  | tooSmall
  | outOfRange (number : Int)
deriving DecidableEq, Repr

def PortError.message : PortError → String
  | empty => "cannot parse integer from empty string"
  | badDigit => "invalid digit found in string"
  | tooLarge => "number too large to fit in target type"
  | tooSmall => "number too small to fit in target type"
  | outOfRange number => toString number ++ " is not in 0..=65535"

/-- Why a command line is not followed. -/
inductive FlagError where
  | valueMissing (flag : ValueFlag)
  | repeated (flag : String)
  | unexpected (argument : String)
  | badPort (value : String) (cause : PortError)
  | valueNotExpected (switch : Switch) (value : String)
  | helpWanted
  | versionWanted
deriving DecidableEq, Repr

def helpText : String :=
  String.intercalate "\n" [
    "LibreSBC web UI server and API proxy",
    "",
    "Usage: libre-webui [OPTIONS]",
    "",
    "Options:",
    "  -H, --host <HOST>            HTTP API binding IP address [default: 0.0.0.0]",
    "  -P, --port <PORT>            HTTP API binding port [default: 8088]",
    "  -L, --libresbc <LIBRESBC>    LibreSBC web API interface [default: http://127.0.0.1:8088]",
    "  -d, --debug                  Sets log level to debug",
    "  -D, --domain <DOMAIN>        FQDN - fully qualified domain name [default: \"\"]",
    "  -t, --tls                    Enable https server instead of default: http",
    "  -c, --certs <CERTS>          SSL/TLS certificate/key files, syntax <crt:key> [default: \"\"]",
    "  -w, --webroot <WEBROOT>      Directory holding the web UI bundle [default: webui]",
    "      --proxy-prefix <PREFIX>  Additional path prefix forwarded to LibreSBC (repeatable)",
    "      --upstream-ca <FILE>     CA bundle for the LibreSBC certificate; enables strict verification",
    "  -h, --help                   Print help",
    "  -V, --version                Print version",
    ""]

def versionText : String :=
  "libre-webui 0.1.0\n"

/-- The character is a control character of ASCII that is neither a tab nor ends a line or page. -/
def isHiddenControl (c : Char) : Bool :=
  c == '\x7f' || (c.toNat < 0x20 && !(['\t', '\n', '\x0c', '\r'].contains c))

/-- The first line of a text, without the control characters that are not seen. -/
def firstLine (text : String) : String :=
  let line := (text.toList.takeWhile (· ≠ '\n')).filter fun c ↦ !isHiddenControl c
  String.ofList (if line.getLast? = some '\r' then line.dropLast else line)

/-- The first line of what is said about a command line; help and version are given in full. -/
def FlagError.message : FlagError → String
  | valueMissing flag =>
    "error: a value is required for '" ++ flag.display ++ "' but none was supplied"
  | repeated flag => "error: the argument '" ++ flag ++ "' cannot be used multiple times"
  | unexpected argument => firstLine ("error: unexpected argument '" ++ argument ++ "' found")
  | badPort value cause =>
    firstLine ("error: invalid value '" ++ value ++ "' for '" ++ ValueFlag.port.display ++ "': " ++
      cause.message)
  | valueNotExpected switch value =>
    firstLine ("error: unexpected value '" ++ value ++ "' for '" ++ switch.display ++
      "' found; no more were expected")
  | helpWanted => helpText
  | versionWanted => versionText

end WebGateway.Config
