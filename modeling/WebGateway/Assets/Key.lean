import WebGateway.Text.Percent

/-!
# Asset keys

The key under which a request path looks for a file: its segments, each with its escapes decoded
once, without the empty ones and the single dots, joined by slashes. A path that names a directory
asks for the index document in it. A path has no key when one of its segments is no text after
decoding, climbs to the parent, or hides a separator.
-/

set_option autoImplicit false
set_option relaxedAutoImplicit false

namespace WebGateway.Assets

/-- The entry document of a directory. -/
def indexName : String :=
  "index.html"

/-- The path ends with a slash, as the path of a directory does. -/
def namesDirectory (path : String) : Bool :=
  path.toList.getLast? == some '/'

/-- The text that a raw segment stands for, unless it climbs or hides a separator. -/
def segment? (raw : List Char) : Option (List Char) := do
  let segment ← Text.ofUtf8? (Text.Percent.decode raw)
  if segment = ['.', '.'] ∨ '/' ∈ segment ∨ '\\' ∈ segment then none else some segment

/-- The segment says where to go: it is neither empty nor a single dot. -/
def isStep (segment : List Char) : Bool :=
  segment ≠ [] && segment ≠ ['.']

/-- The segments of a path that say where to go, decoded. -/
def steps? (path : String) : Option (List (List Char)) :=
  ((path.toList.splitOn '/').mapM segment?).map (List.filter isStep)

/-- The key under which a path looks for its file. -/
def key? (path : String) : Option String :=
  (steps? path).map fun steps ↦
    let named :=
      if steps = [] ∨ namesDirectory path = true then steps ++ [indexName.toList] else steps
    String.ofList (['/'].intercalate named)

end WebGateway.Assets
