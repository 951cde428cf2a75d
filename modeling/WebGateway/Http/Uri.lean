/-!
# Request targets

A request names its target in one of four forms: a path with an optional query, the same behind a
scheme and an authority, an authority alone, or an asterisk. A fragment is dropped. The reader of
each part says which characters may stand in it; text outside ASCII may stand in paths and queries.
-/

set_option autoImplicit false
set_option relaxedAutoImplicit false

namespace WebGateway.Http

/-- Why a text names no target. -/
inductive UriError where
  | empty
  | badCharacter
  | badFormat
  | badAuthority
  | schemeTooLong
  | tooLong
  | noSlash
deriving DecidableEq, Repr

def UriError.message : UriError → String
  | empty => "empty string"
  | badCharacter => "invalid uri character"
  | badFormat => "invalid format"
  | badAuthority => "invalid authority"
  | schemeTooLong => "scheme too long"
  | tooLong => "uri too long"
  | noSlash => "path does not start with slash"

/-- The longest target that is read, in octets. -/
def maxUriSize : Nat :=
  65534

/-- A path and the query behind it. -/
structure PathQuery where
  path : String
  query : Option String
deriving DecidableEq, Repr

/-- A target. Without a scheme and an authority it is a path, and without a path an authority. -/
structure Uri where
  scheme : Option String
  authority : Option String
  path : String
  query : Option String
deriving DecidableEq, Repr

namespace Uri

/-- The character may stand in a path. -/
def isPathChar (c : Char) : Bool :=
  let n := c.toNat
  n == 0x21 || n == 0x22 || (0x24 ≤ n && n ≤ 0x3B) || n == 0x3D || (0x40 ≤ n && n ≤ 0x5F) ||
    (0x61 ≤ n && n ≤ 0x7E) || 0x80 ≤ n

/-- The character may stand in a query. -/
def isQueryChar (c : Char) : Bool :=
  let n := c.toNat
  n == 0x21 || (0x24 ≤ n && n ≤ 0x3B) || n == 0x3D || (0x3F ≤ n && n ≤ 0x7E) || 0x80 ≤ n

/-- The query at the front of a text, up to its end or a fragment. -/
def queryOf : List Char → Except UriError (List Char)
  | [] => .ok []
  | c :: rest =>
    if c = '#' then .ok []
    else if isQueryChar c then (queryOf rest).map (c :: ·)
    else .error .badCharacter

/-- The path at the front of a text and the query behind it. -/
def pathQueryOf : List Char → Except UriError (List Char × Option (List Char))
  | [] => .ok ([], none)
  | c :: rest =>
    if c = '?' then (queryOf rest).map fun query ↦ ([], some query)
    else if c = '#' then .ok ([], none)
    else if isPathChar c then (pathQueryOf rest).map fun (path, query) ↦ (c :: path, query)
    else .error .badCharacter

/-- Reads a path and a query; an empty path stands for the root. -/
def parsePathQuery (text : String) : Except UriError PathQuery :=
  if maxUriSize < text.utf8ByteSize then .error .tooLong
  else
    match text.toList with
    | [] => .ok ⟨"/", none⟩
    | first :: rest =>
      if ['/', '?', '#', '*'].contains first then
        (pathQueryOf (first :: rest)).map fun (path, query) ↦
          ⟨if path = [] then "/" else String.ofList path, query.map String.ofList⟩
      else .error .noSlash

/-- The character may stand in an authority. -/
def isAuthorityChar (c : Char) : Bool :=
  c.isAlphanum || "!$&'()*+,-.:;=@[]_~".toList.contains c

/-- What is known of an authority that is read from its front. -/
structure AuthorityScan where
  colons : Nat
  opened : Bool
  closed : Bool
  hasPercent : Bool
  afterAt : Bool
deriving DecidableEq, Repr

namespace AuthorityScan

def start : AuthorityScan :=
  ⟨0, false, false, false, false⟩

/-- Takes the next character of the authority. -/
def step (scan : AuthorityScan) (c : Char) : Except UriError AuthorityScan :=
  let scan := { scan with afterAt := c == '@' }
  if c = ':' then
    if 8 ≤ scan.colons then .error .badAuthority else .ok { scan with colons := scan.colons + 1 }
  else if c = '[' then
    if scan.hasPercent || scan.opened then .error .badAuthority
    else .ok { scan with opened := true }
  else if c = ']' then
    if !scan.opened || scan.closed then .error .badAuthority
    else .ok { scan with closed := true, colons := 0, hasPercent := false }
  else if c = '@' then .ok { scan with colons := 0, hasPercent := false }
  else if c = '%' then .ok { scan with hasPercent := true }
  else if isAuthorityChar c then .ok scan
  else .error .badCharacter

/-- The brackets are balanced, at most one colon is left for a port, nothing is escaped behind the
user information, and the authority does not end with it. -/
def accepts (scan : AuthorityScan) : Bool :=
  scan.opened == scan.closed && scan.colons ≤ 1 && !scan.afterAt && !scan.hasPercent

end AuthorityScan

/-- The character ends an authority. -/
def endsAuthority (c : Char) : Bool :=
  c == '/' || c == '?' || c == '#'

/-- The authority at the front of a text, and the text behind it. -/
def splitAuthority (text : List Char) : Except UriError (List Char × List Char) := do
  let authority := text.takeWhile fun c ↦ !endsAuthority c
  let scan ← authority.foldlM AuthorityScan.step .start
  if scan.accepts then return (authority, text.dropWhile fun c ↦ !endsAuthority c)
  else .error .badAuthority

/-- Reads an authority that has to fill the whole text. -/
def parseAuthority (text : String) : Except UriError String := do
  if text = "" then .error .empty
  else
    let (authority, rest) ← splitAuthority text.toList
    if rest = [] then return String.ofList authority else .error .badCharacter

/-- The character may stand in a scheme. -/
def isSchemeChar (c : Char) : Bool :=
  c.isAlphanum || c == '+' || c == '-' || c == '.' || c == '~'

/-- The longest scheme that is read. -/
def maxSchemeSize : Nat :=
  64

/-- The scheme in front of `://`, if the text begins with one, and the text behind it. The bare
mark is no beginning of a target. -/
def splitScheme (text : List Char) : Except UriError (Option (List Char × List Char)) :=
  let scheme := text.takeWhile isSchemeChar
  match text.dropWhile isSchemeChar with
  | ':' :: '/' :: '/' :: rest =>
    if scheme = [] ∧ rest = [] then .ok none
    else if maxSchemeSize < scheme.length then .error .schemeTooLong
    else if ["http", "https"].contains (String.ofList (scheme.map Char.toLower)) then
      .ok (some (scheme.map Char.toLower, rest))
    else .ok (some (scheme, rest))
  | _ => .ok none

/-- Reads a target that begins with a scheme or an authority. -/
def parseFull (text : List Char) : Except UriError Uri := do
  match ← splitScheme text with
  | none =>
    let (authority, rest) ← splitAuthority text
    if rest = [] then return ⟨none, some (String.ofList authority), "", none⟩
    else .error .badFormat
  | some (scheme, behind) =>
    if behind = [] then .error .empty
    else
      let (authority, rest) ← splitAuthority behind
      if authority = [] then .error .badFormat
      else
        let ⟨path, query⟩ ← parsePathQuery (String.ofList rest)
        return ⟨some (String.ofList scheme), some (String.ofList authority), path, query⟩

/-- Reads a request target. -/
def parse (text : String) : Except UriError Uri :=
  if maxUriSize < text.utf8ByteSize then .error .tooLong
  else
    match text.toList with
    | [] => .error .empty
    | '/' :: _ => (parsePathQuery text).map fun ⟨path, query⟩ ↦ ⟨none, none, path, query⟩
    | ['*'] => .ok ⟨none, none, "*", none⟩
    | [_] => (parseAuthority text).map fun authority ↦ ⟨none, some authority, "", none⟩
    | characters => parseFull characters

/-- Puts a target together from its parts, each of which has to be readable. -/
def build (scheme authority pathQuery : String) : Except UriError Uri := do
  let authority ← parseAuthority authority
  let ⟨path, query⟩ ← parsePathQuery pathQuery
  return ⟨some scheme, some authority, path, query⟩

/-- The path and the query as they are sent. -/
def target (uri : Uri) : String :=
  match uri.query with
  | some query => uri.path ++ "?" ++ query
  | none => uri.path

/-- The whole target as a text. -/
def toText (uri : Uri) : String :=
  (match uri.scheme with
    | some scheme => scheme ++ "://"
    | none => "") ++
  uri.authority.getD "" ++ uri.target

end Uri

end WebGateway.Http
