import WebGateway.Backend.Target
import WebGateway.Http.Uri

/-!
# Request targets at the API server

The target of a forwarded request: the path of the request behind the path of the API server, and
its query behind the query of the API server, byte for byte.
-/

set_option autoImplicit false
set_option relaxedAutoImplicit false

namespace WebGateway.Backend

open Http (Uri UriError)

namespace Target

/-- The path of the API server and the path of a request, with a slash between them. -/
def pathBehind (basePath path : String) : String :=
  if path.toList.head? = some '/' then basePath ++ path else basePath ++ "/" ++ path

/-- The query of the API server and the query of a request; an empty one of the API server does not
count. -/
def queryBehind (base query : Option String) : Option String :=
  match base, query with
  | some base, some query => some (if base = "" then query else base ++ "&" ++ query)
  | some base, none => if base = "" then none else some base
  | none, query => query

/-- The path and the query of a forwarded request. -/
def pathQuery (target : Target) (uri : Uri) : String :=
  let path := pathBehind target.basePath uri.path
  match queryBehind target.query uri.query with
  | some query => path ++ "?" ++ query
  | none => path

/-- The request target at the API server. -/
def uriFor (target : Target) (uri : Uri) : Except UriError Uri :=
  Uri.build target.scheme.toText target.authority (target.pathQuery uri)

end Target

end WebGateway.Backend
