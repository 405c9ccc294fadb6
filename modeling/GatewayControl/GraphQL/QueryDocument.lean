import GatewayControl.GraphQL.SchemaDocument

/-!
Executable documents: reading operations and fragments, and the faults that make a document
unusable before it is run. Selections may be nested to a fixed depth; operations and fragments are
told apart by name.
-/

namespace GatewayControl.GraphQL

open GatewayControl.Parser

def typeCondition : Parser String := lexeme do
  literal "on"
  let _ ← takeWhile1 isBlank
  bareName

def label : Parser String := do
  let label ← name
  symbol ":"
  return label

def selectionSet : Nat → Parser (List Selection)
  | 0 => failure
  | fuel + 1 => do
    symbol "\x7b"
    let selections ← many1 (
      (do
        let label ← option label
        let name ← name
        let arguments := (← option (arguments true)).getD []
        let directives ← directives true
        let selections := (← option (selectionSet fuel)).getD []
        return Selection.field label name arguments directives selections) <|>
      (do
        symbol "..."
        let condition ← option typeCondition
        let directives ← directives true
        let selections ← selectionSet fuel
        return .inlineFragment condition directives selections) <|>
      (do
        symbol "..."
        absent typeCondition
        let fragment ← name
        let directives ← directives true
        return .spread fragment directives))
    symbol "\x7d"
    return selections

def selections : Parser (List Selection) := do
  selectionSet ((← get).length + 1)

def variableDefinition : Parser VariableDefinition := do
  symbol "$"
  let name ← name
  symbol ":"
  let type ← typeRef
  let directives ← directives true
  let default ← option defaultValue
  return { name, type, directives, default }

def variableDefinitions : Parser (List VariableDefinition) := do
  symbol "("
  let declared ← many variableDefinition
  symbol ")"
  return declared

def executable : Parser Executable :=
  (do
    let kind ← operationKind
    let name ← option name
    let declared := (← option variableDefinitions).getD []
    let directives ← directives true
    return .operation kind name declared directives (← selections)) <|>
  (do return .operation .query none [] [] (← selections)) <|>
  (do
    symbol "fragment"
    let name ← name
    let condition ← typeCondition
    let directives ← directives true
    return .fragment name condition directives (← selections))

inductive QueryFault
  | badSyntax
  | tooDeep
  | severalOperations
  | repeatedOperation (name : String)
  | repeatedFragment (name : String)
  | noOperation
deriving DecidableEq, Repr

def QueryFault.message : QueryFault → String
  | badSyntax => syntaxErrorMessage
  | tooDeep => "recursion limit exceeded."
  | severalOperations => "document contains multiple operations"
  | repeatedOperation name => "operation " ++ name ++ " is defined twice"
  | repeatedFragment name => "fragment " ++ name ++ " is defined twice"
  | noOperation => "document does not contain an operation"

def nestingLimit : Nat := 64

def leadingFault (arguments : List (String × Literal)) (directives : List Directive) :
    Option QueryFault :=
  if anyFieldOverflows arguments || directives.any Directive.overflows then some .badSyntax
  else none

mutual

/-- The first fault of a selection in document order, where `depth` more selection sets may be
nested. -/
def Selection.fault (depth : Nat) : Selection → Option QueryFault
  | .field _ _ arguments directives [] => leadingFault arguments directives
  | .field _ _ arguments directives (first :: others) =>
    (leadingFault arguments directives).or (nestedFault depth (first :: others))
  | .spread _ directives => leadingFault [] directives
  | .inlineFragment _ directives selections =>
    (leadingFault [] directives).or (nestedFault depth selections)

def nestedFault : Nat → List Selection → Option QueryFault
  | 0, _ => some .tooDeep
  | depth + 1, selections => selectionsFault depth selections

def selectionsFault (depth : Nat) : List Selection → Option QueryFault
  | [] => none
  | selection :: selections =>
    (selection.fault depth).or (selectionsFault depth selections)

end

def VariableDefinition.overflows (declared : VariableDefinition) : Bool :=
  declared.directives.any Directive.overflows || declared.default.any Literal.overflows

/-- The fault of a definition on its own. A number too large counts as a syntax error. -/
def Executable.fault : Executable → Option QueryFault
  | .operation _ _ declared directives selections =>
    if declared.any VariableDefinition.overflows then some .badSyntax
    else (leadingFault [] directives).or (selectionsFault nestingLimit selections)
  | .fragment _ _ directives selections =>
    (leadingFault [] directives).or (selectionsFault nestingLimit selections)

inductive OperationsSeen
  | none
  | anonymous
  | named (names : List String)
deriving DecidableEq, Repr

/-- The first definition whose name clashes with the ones before it, and a missing operation after
all of them. -/
def nameFault : OperationsSeen → List String → List Executable → Option QueryFault
  | .none, _, [] => some .noOperation
  | _, _, [] => none
  | operations, fragments, .fragment name _ _ _ :: rest =>
    if name ∈ fragments then some (.repeatedFragment name)
    else nameFault operations (name :: fragments) rest
  | .none, fragments, .operation _ none _ _ _ :: rest => nameFault .anonymous fragments rest
  | .none, fragments, .operation _ (some name) _ _ _ :: rest =>
    nameFault (.named [name]) fragments rest
  | .named names, fragments, .operation _ (some name) _ _ _ :: rest =>
    if name ∈ names then some (.repeatedOperation name)
    else nameFault (.named (name :: names)) fragments rest
  | _, _, .operation _ _ _ _ _ :: _ => some .severalOperations

/-- Reads an executable document. Every definition is looked at on its own before any name is. -/
def readQueryDocument (source : String) : Except QueryFault (List Executable) :=
  match whole (do ignored; many1 executable) source with
  | none => .error .badSyntax
  | some definitions =>
    match (definitions.findSome? Executable.fault).or (nameFault .none [] definitions) with
    | some fault => .error fault
    | none => .ok definitions

end GatewayControl.GraphQL
