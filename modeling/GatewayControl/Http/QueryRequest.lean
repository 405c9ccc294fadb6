import GatewayControl.Json.Written

/-!
The body of a request that asks a query: an object with a text `query`, and optionally the name of
an operation and its variables, or an array of these three in their order. No member may be there
twice; members of other names are passed over.
-/

namespace GatewayControl.Http

open Json (Written TextPart)

def maxVariableDepth : Nat := 126

structure QueryRequest where
  query : String
  operationName : Option String := none
  variableValues : Option Written := none

namespace QueryRequest

def soundVariables? (value : Written) : Option Written :=
  if value.isSound maxVariableDepth then some value else none

def ofItems? (items : List Written) : Option QueryRequest :=
  match items with
  | [query] => do return { query := ← query.text? }
  | [query, operationName] => do
    return { query := ← query.text?, operationName := ← operationName.nullable? Written.text? }
  | [query, operationName, variableValues] => do
    return {
      query := ← query.text?
      operationName := ← operationName.nullable? Written.text?
      variableValues := ← variableValues.nullable? soundVariables? }
  | _ => none

def onlyMember (name : String) (members : List (String × Written)) : Option (Option Written) :=
  match members.filter fun member => member.1 = name with
  | [] => some none
  | [(_, value)] => some (some value)
  | _ => none

def ofMembers? (members : List (List TextPart × Written)) : Option QueryRequest := do
  let members ← members.mapM fun (name, value) => do return (← Json.Written.decodeText name, value)
  let query ← ← onlyMember "query" members
  let operationName ← onlyMember "operationName" members
  let variableValues ← onlyMember "variables" members
  return {
    query := ← query.text?
    operationName := ← (operationName.getD .null).nullable? Written.text?
    variableValues := ← (variableValues.getD .null).nullable? soundVariables? }

def ofWritten? : Written → Option QueryRequest
  | .array items => ofItems? items
  | .object members => ofMembers? members
  | _ => none

def ofBytes? (bytes : List UInt8) : Option QueryRequest := Written.parse bytes >>= ofWritten?

end QueryRequest

end GatewayControl.Http
