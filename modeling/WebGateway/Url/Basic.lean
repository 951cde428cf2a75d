import WebGateway.Text.Trim
import WebGateway.Url.Host

/-!
# URLs

A URL is read from left to right: scheme, user information, host, port, path, query. Only URLs of
the schemes `http` and `https` are kept in parts; of the others only the errors are told. User
information and fragments are dropped. Blanks and control characters around a URL do not count, nor
do tabs and line ends inside it.
-/

set_option autoImplicit false
set_option relaxedAutoImplicit false

namespace WebGateway.Url

inductive WebScheme where
  | http
  | https
deriving DecidableEq, Repr

namespace WebScheme

def toText : WebScheme → String
  | http => "http"
  | https => "https"

/-- The port that is meant when none is given. -/
def defaultPort : WebScheme → UInt16
  | http => 80
  | https => 443

end WebScheme

/-- The parts of an `http` or `https` URL. -/
structure WebUrl where
  scheme : WebScheme
  host : Host
  port : UInt16
  path : String
  query : Option String
deriving DecidableEq, Repr

/-- How the schemes differ in what follows them. -/
inductive SchemeKind where
  | web (scheme : WebScheme)
  | special
  | file
  | other
deriving DecidableEq, Repr

namespace SchemeKind

def ofName (name : String) : SchemeKind :=
  if name = "http" then web .http
  else if name = "https" then web .https
  else if name = "ws" ∨ name = "wss" ∨ name = "ftp" then special
  else if name = "file" then file
  else other

/-- A backslash counts as a slash. -/
def isSpecial : SchemeKind → Bool
  | other => false
  | _ => true

end SchemeKind

/-- The text without the characters that a URL does not count. -/
def significant (text : String) : List Char :=
  let inner := Text.trimEnds (fun c ↦ c.toNat ≤ 0x20) text.toList
  inner.filter fun c ↦ c ≠ '\t' && c ≠ '\n' && c ≠ '\r'

def isSchemeChar (c : Char) : Bool :=
  c.isAlphanum || c == '+' || c == '-' || c == '.'

/-- The scheme at the front of a text, in lower case, and the text behind its colon. -/
def splitScheme? (text : List Char) : Option (String × List Char) :=
  match text with
  | [] => none
  | first :: _ =>
    if first.isAlpha then
      match text.dropWhile isSchemeChar with
      | ':' :: rest => some (String.ofList ((text.takeWhile isSchemeChar).map Char.toLower), rest)
      | _ => none
    else none

/-- The character ends the authority. -/
def endsAuthority (special : Bool) (c : Char) : Bool :=
  c == '/' || c == '?' || c == '#' || (special && c == '\\')

/-- The text before the last element that satisfies the test and the text behind it. -/
def splitLast? {α : Type} (test : α → Bool) : List α → Option (List α × List α)
  | [] => none
  | x :: rest =>
    match splitLast? test rest with
    | some (before, behind) => some (x :: before, behind)
    | none => if test x then some ([], rest) else none

/-- User information that is more than a colon. -/
def isUserNamed (user : List Char) : Bool :=
  user ≠ [] && user ≠ [':']

/-- The part of an authority that the host takes: up to a colon outside brackets. -/
def hostPart (inside : Bool) : List Char → List Char × List Char
  | [] => ([], [])
  | c :: rest =>
    if c = ':' ∧ inside = false then ([], c :: rest)
    else
      let inside := if c = '[' then true else if c = ']' then false else inside
      let (host, behind) := hostPart inside rest
      (c :: host, behind)

/-- The port that the digits behind a colon write; without digits there is none. A backslash ends
it under every scheme. -/
def portOf (text : List Char) : Except UrlError (Option UInt16) :=
  let digits := text.takeWhile (· ≠ '\\')
  if digits = [] then .ok none
  else
    match Net.SocketAddress.port? digits with
    | some port => .ok (some port)
    | none => .error .badPort

/-- The host and the port of an authority without its user information. -/
def hostAndPort (kind : SchemeKind) (authority : List Char) :
    Except UrlError (Option Host × Option UInt16) := do
  let (name, behind) := hostPart false authority
  if name = [] ∧ (kind.isSpecial = true ∨ behind ≠ []) then .error .emptyHost
  else
    let host ← if kind.isSpecial then (Host.parse name).map some
      else (Host.checkOpaque name).map fun _ ↦ none
    match behind with
    | [] => return (host, none)
    | _ :: digits => return (host, ← portOf digits)

/-- The host and the port behind two slashes, and the text behind the authority. -/
def authorityOf (kind : SchemeKind) (text : List Char) :
    Except UrlError ((Option Host × Option UInt16) × List Char) := do
  let authority := text.takeWhile fun c ↦ !endsAuthority kind.isSpecial c
  let rest := text.dropWhile fun c ↦ !endsAuthority kind.isSpecial c
  match splitLast? (· == '@') authority with
  | none => return (← hostAndPort kind authority, rest)
  | some (user, place) =>
    if place = [] ∧ ((user = [] ∧ rest ≠ []) ∨ isUserNamed user = true) then .error .emptyHost
    else return (← hostAndPort kind place, rest)

/-- The character is escaped in a path. -/
def isEscapedInPath (c : Char) : Bool :=
  c.toNat ≤ 0x20 || 0x7F ≤ c.toNat || "\"#<>?\x60\x7b\x7d".toList.contains c

/-- The character is escaped in a query. -/
def isEscapedInQuery (c : Char) : Bool :=
  c.toNat ≤ 0x20 || 0x7F ≤ c.toNat || "\"#<>'".toList.contains c

/-- The segment stands for the directory itself. -/
def isHere (segment : List Char) : Bool :=
  [".", "%2e"].contains (String.ofList (segment.map Char.toLower))

/-- The segment stands for the parent directory. -/
def isParent (segment : List Char) : Bool :=
  ["..", ".%2e", "%2e.", "%2e%2e"].contains (String.ofList (segment.map Char.toLower))

/-- The segment names a drive, which no parent segment leaves. -/
def isDrive : List Char → Bool
  | [letter, mark] => letter.isAlpha && (mark == ':' || mark == '|')
  | _ => false

/-- Goes up from a reversed list of segments. -/
def goUp : List (List Char) → List (List Char)
  | [] => []
  | top :: below => if isDrive top then top :: below else below

/-- Follows the segments of a path from the directory whose segments are given in reverse. -/
def follow : List (List Char) → List (List Char) → List (List Char)
  | directory, [] => directory
  | directory, [last] =>
    if isParent last then [] :: goUp directory
    else if isHere last then [] :: directory
    else last :: directory
  | directory, segment :: rest =>
    if isParent segment then follow (goUp directory) rest
    else if isHere segment then follow directory rest
    else follow (segment :: directory) rest

/-- The path that a text writes: escaped where needed, without dot segments. -/
def pathOf (text : List Char) : String :=
  let slashed := text.map fun c ↦ if c = '\\' then '/' else c
  let relative := match slashed with
    | '/' :: rest => rest
    | rest => rest
  let segments := (relative.splitOn '/').map (Text.Percent.encode isEscapedInPath)
  String.ofList ('/' :: ['/'].intercalate (follow [] segments).reverse)

/-- The query behind a question mark, without a fragment. -/
def queryOf (text : List Char) : Option String :=
  match text with
  | '?' :: query =>
    some (String.ofList (Text.Percent.encode isEscapedInQuery (query.takeWhile (· ≠ '#'))))
  | _ => none

def isSlash (c : Char) : Bool :=
  c == '/' || c == '\\'

/-- What a text behind an `http` or `https` scheme names. -/
def webUrlOf (scheme : WebScheme) (text : List Char) : Except UrlError WebUrl := do
  let ((host, port), rest) ← authorityOf (.web scheme) (text.dropWhile isSlash)
  match host with
  | none => .error .emptyHost
  | some host =>
    return {
      scheme := scheme
      host := host
      port := port.getD scheme.defaultPort
      path := pathOf (rest.takeWhile fun c ↦ c ≠ '?' && c ≠ '#')
      query := queryOf (rest.dropWhile fun c ↦ c ≠ '?' && c ≠ '#') }

/-- Checks the host of a file, which a drive letter is not. -/
def checkFile (text : List Char) : Except UrlError Unit :=
  match text with
  | first :: second :: rest =>
    if isSlash first && isSlash second then
      let host := rest.takeWhile fun c ↦ !endsAuthority true c
      if host = [] ∨ isDrive host = true then .ok () else (Host.parse host).map fun _ ↦ ()
    else .ok ()
  | _ => .ok ()

/-- Checks what follows a scheme of no special kind. -/
def checkOther (text : List Char) : Except UrlError Unit :=
  match text with
  | '/' :: '/' :: rest => (authorityOf .other rest).map fun _ ↦ ()
  | _ => .ok ()

/-- Reads a URL; the result is empty for a URL of another scheme than `http` and `https`. -/
def parse (text : String) : Except UrlError (Option WebUrl) :=
  match splitScheme? (significant text) with
  | none => .error .noBase
  | some (name, rest) =>
    match SchemeKind.ofName name with
    | .web scheme => (webUrlOf scheme rest).map some
    | .special => (authorityOf .special (rest.dropWhile isSlash)).map fun _ ↦ none
    | .file => (checkFile rest).map fun _ ↦ none
    | .other => (checkOther rest).map fun _ ↦ none

end WebGateway.Url
