import GatewayControl.Endpoint
import GatewayControl.Text.Blank
import GatewayControl.Text.Split

/-!
The endpoints that are served, found by request path. A table is never changed; a pass puts a new
one in its place. Where endpoints share a path, the later one has it.
-/

namespace GatewayControl

inductive RouteKind
  | root
  | query
deriving DecidableEq, Repr

structure EndpointTable where
  endpoints : List Endpoint := []
  paths : NameMap (Endpoint × RouteKind) := ∅

namespace EndpointTable

def addPaths (paths : NameMap (Endpoint × RouteKind)) (endpoint : Endpoint) :
    NameMap (Endpoint × RouteKind) :=
  (paths.insert endpoint.rootPath (endpoint, .root)).insert endpoint.queryPath (endpoint, .query)

def ofEndpoints (endpoints : List Endpoint) : EndpointTable where
  endpoints := endpoints
  paths := endpoints.foldl addPaths ∅

/-- A path without the slashes at its end; a path of one byte stays as it is. -/
def trimPath (path : String) : String :=
  if path.utf8ByteSize > 1 then String.ofList (Text.dropEndWhile (· = '/') path.toList) else path

def match? (table : EndpointTable) (path : String) : Option (Endpoint × RouteKind) :=
  table.paths.get? (trimPath path)

end EndpointTable

end GatewayControl
