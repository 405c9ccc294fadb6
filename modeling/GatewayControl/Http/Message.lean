import GatewayControl.Json.Basic
import GatewayControl.Text.Split

/-!
Requests and responses. The target of a request is a path with an optional query, a whole URL, the
name of a host or an asterisk; a fragment is no part of it. Paths are taken as they are written.
-/

namespace GatewayControl.Http

structure Request where
  method : String
  target : String
  body : List UInt8 := []
  /-- The identity that the client gave the request. -/
  id : Option String := none

structure Target where
  path : String
  query : Option String := none
deriving DecidableEq, Repr

def afterHost : List Char → Option (List Char)
  | ':' :: '/' :: '/' :: rest =>
    some (rest.dropWhile fun char => char ≠ '/' && char ≠ '?' && char ≠ '#')
  | _ :: rest => afterHost rest
  | [] => none

/-- The target that a path with its query names. A URL without a path is about the path of a single
slash. -/
def Target.ofPathAndQuery (text : List Char) : Target :=
  let written := text.takeWhile (· ≠ '#')
  let (path, query) :=
    match Text.breakAt (· = '?') written with
    | some (path, _, query) => (path, some (String.ofList query))
    | none => (written, none)
  { path := if path.isEmpty then "/" else String.ofList path, query }

/-- What a request is about. An asterisk, for the server as a whole, is a path of its own; the name
of a host alone has the empty path. -/
def Request.parsedTarget (request : Request) : Target :=
  let text := request.target.toList
  if text = ['*'] then { path := "*" }
  else if Text.startsWith ['/'] text then .ofPathAndQuery text
  else
    match afterHost text with
    | some pathAndQuery => .ofPathAndQuery pathAndQuery
    | none => { path := "" }

structure Response where
  status : Nat
  contentType : Option String := none
  body : String := ""
  requestId : Option String := none
deriving DecidableEq, Repr

namespace Response

def json (status : Nat) (body : Json) : Response where
  status := status
  contentType := some "application/json"
  body := body.write

def methodNotAllowed : Response where
  status := 405

def queryError (status : Nat) (message : String) : Response :=
  json status (.object [("errors", .array [.object [("message", .text message)]])])

end Response

end GatewayControl.Http
