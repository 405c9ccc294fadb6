import GatewayControl.GraphQL.QueryDocument
import GatewayControl.Http.Message
import GatewayControl.Http.QueryRequest
import GatewayControl.Routing.EndpointTable
import GatewayControl.Url.Form

/-!
Answers to requests, from the table of endpoints at the time of the request. The root lists the
endpoints, an endpoint's root path describes it, and its query path checks queries. Queries are not
executed.
-/

namespace GatewayControl.Http

def summary (endpoint : Endpoint) : List (String × Json) :=
  [("schema", .text endpoint.schema), ("root_path", .text endpoint.rootPath),
    ("query_path", .text endpoint.queryPath)]

def listing (table : EndpointTable) : Json :=
  .array (table.endpoints.map fun endpoint => .object (summary endpoint))

def resolverWord (resolvers : Resolvers) (coordinate : Coordinate) : String :=
  match resolvers.get? coordinate with
  | some (.upstream _) => "upstream"
  | some (.template _) => "template"
  | some .null | none => "null"

def describeField (resolvers : Resolvers) (type : String) (field : GraphQL.ObjectField) : Json :=
  .object [("name", .text field.name), ("type", .text field.type),
    ("resolver", .text (resolverWord resolvers ⟨type, field.name⟩))]

def describeType (resolvers : Resolvers) (type : GraphQL.ObjectType) : Json :=
  .object [("name", .text type.name),
    ("fields", .array (type.fields.map (describeField resolvers type.name)))]

def describe (endpoint : Endpoint) : Json :=
  .object (summary endpoint ++ [
    ("query_type", .text endpoint.types.queryType),
    ("mutation_type", .ofOption endpoint.types.mutationType),
    ("types", .array (endpoint.types.objectTypes.map (describeType endpoint.resolvers)))])

def answerQuery (endpoint : Endpoint) (query : String) : Response :=
  match GraphQL.readQueryDocument query with
  | .error fault => .queryError 400 fault.message
  | .ok _ => .queryError 501 ("query execution is not available for " ++ endpoint.schema)

def answerRoot (endpoint : Endpoint) (method : String) : Response :=
  if method = "GET" then .json 200 (describe endpoint) else .methodNotAllowed

def answerQueryPath (endpoint : Endpoint) (request : Request) : Response :=
  match request.method with
  | "GET" =>
    match request.parsedTarget.query.bind fun query => Url.formValue? query "query" with
    | some query => answerQuery endpoint query
    | none => .queryError 400 "missing query parameter"
  | "POST" =>
    match QueryRequest.ofBytes? request.body with
    | some query => answerQuery endpoint query.query
    | none => .queryError 400 ("invalid request body: " ++ Json.readErrorMessage)
  | _ => .methodNotAllowed

def answerEndpoint (table : EndpointTable) (request : Request) : Response :=
  let path := request.parsedTarget.path
  match table.match? path with
  | none => .json 404 (.object [("error", .text ("no endpoint for path " ++ path))])
  | some (endpoint, .root) => answerRoot endpoint request.method
  | some (endpoint, .query) => answerQueryPath endpoint request

def answer (table : EndpointTable) (request : Request) : Response :=
  if request.parsedTarget.path = "/" then
    if request.method = "GET" || request.method = "HEAD" then .json 200 (listing table)
    else .methodNotAllowed
  else answerEndpoint table request

/-- The response to a request. That to `HEAD` has no body, and all carry the request's identity. -/
def respond (table : EndpointTable) (request : Request) : Response :=
  let response := answer table request
  { response with
    body := if request.method = "HEAD" then "" else response.body
    requestId := request.id }

end GatewayControl.Http
