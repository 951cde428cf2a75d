import WebGateway.Assets.MediaTypes.Documents
import WebGateway.Assets.MediaTypes.Products
import WebGateway.Assets.MediaTypes.Recordings
import WebGateway.Assets.MediaTypes.Texts
import WebGateway.Http.Headers

/-!
# Media types

The type of an asset follows from the extension of its key alone. Texts, scripts and JSON documents
are declared to be UTF-8; an asset without a known extension is a sequence of octets.
-/

set_option autoImplicit false
set_option relaxedAutoImplicit false

namespace WebGateway.Assets

open Http (HeaderValue)

/-- A media type without parameters. -/
structure MediaType where
  family : String
  subtype : String
deriving DecidableEq, Repr

namespace MediaType

/-- The subtypes of each family, each with the extensions that stand for it. -/
def families : List (String × List (String × List String)) := [
  ("text", texts),
  ("application", documents),
  ("application", products),
  ("image", images),
  ("audio", sounds),
  ("video", films),
  ("font", fonts),
  ("model", models),
  ("chemical", molecules),
  ("message", messages),
  ("drawing", [("x-dwf", ["dwf"])]),
  ("x-conference", [("x-cooltalk", ["ice"])]),
  ("x-world", worlds)]

/-- The type that an extension in lower case stands for. -/
def ofExtension? (extension : String) : Option MediaType :=
  families.findSome? fun family ↦
    (family.2.find? fun entry ↦ entry.2.contains extension).map fun entry ↦ ⟨family.1, entry.1⟩

def octetStream : MediaType :=
  ⟨"application", "octet-stream"⟩

def text (mediaType : MediaType) : String :=
  mediaType.family ++ "/" ++ mediaType.subtype

/-- The subtype without the suffix that names the syntax it builds on. -/
def bareSubtype (mediaType : MediaType) : String :=
  String.ofList (mediaType.subtype.toList.takeWhile (· ≠ '+'))

/-- Texts, scripts and JSON documents are made of characters. -/
def isTextual (mediaType : MediaType) : Bool :=
  mediaType.family == "text" || mediaType.bareSubtype == "javascript" ||
    mediaType.bareSubtype == "json"

/-- The type as it is declared, with the encoding of the characters of what is made of them. -/
def declaration (mediaType : MediaType) : String :=
  if mediaType.isTextual then mediaType.text ++ "; charset=utf-8" else mediaType.text

/-- The value that declares the type, where it can be written in a field. -/
def headerValue (mediaType : MediaType) : HeaderValue :=
  (HeaderValue.ofText? mediaType.declaration).getD (.ofAscii "application/octet-stream")

/-- The name of the file that a key leads to: its last segment that says where to go, unless that
one climbs to the parent. -/
def fileName? (key : String) : Option (List Char) :=
  let segments := (key.toList.splitOn '/').filter fun segment ↦ segment ≠ [] && segment ≠ ['.']
  match segments.getLast? with
  | some name => if name = ['.', '.'] then none else some name
  | none => none

/-- What follows the last dot of a name, if the dot is not its first character. -/
def extension? (name : List Char) : Option (List Char) :=
  let reversed := name.reverse
  match reversed.dropWhile (· ≠ '.') with
  | [] => none
  | [_] => none
  | _ => some (reversed.takeWhile (· ≠ '.')).reverse

/-- The media type of the asset with the given key. -/
def ofKey (key : String) : MediaType :=
  (((fileName? key).bind extension?).bind fun extension ↦
    ofExtension? (String.ofList (extension.map Char.toLower))).getD octetStream

end MediaType

end WebGateway.Assets
