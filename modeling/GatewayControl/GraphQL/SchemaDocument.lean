import GatewayControl.GraphQL.Lexeme

/-!
Schema documents: reading a list of definitions, and the faults of a document that are found before
its types are looked at. A definition may carry a description, which is dropped; an extension may
not.
-/

namespace GatewayControl.GraphQL

open GatewayControl.Parser

def inputDefinition : Parser InputDefinition := do
  let _ ← option string
  let name ← name
  symbol ":"
  let type ← typeRef
  let default ← option defaultValue
  let directives ← directives false
  return { name, type, default, directives }

def argumentDefinitions : Parser (List InputDefinition) := do
  symbol "("
  let arguments ← many1 inputDefinition
  symbol ")"
  return arguments

def fieldDefinition : Parser FieldDefinition := do
  let _ ← option string
  let name ← name
  let arguments := (← option argumentDefinitions).getD []
  symbol ":"
  let type ← typeRef
  let directives ← directives false
  return { name, arguments, type, directives }

def braced (item : Parser α) : Parser (List α) := do
  symbol "\x7b"
  let items ← many1 item
  symbol "\x7d"
  return items

def interfaceNames : Parser (List String) := do
  symbol "implements"
  let _ ← option (symbol "&")
  let first ← name
  let others ← many do symbol "&"; name
  return first :: others

def memberNames : Parser (List String) := do
  symbol "="
  let _ ← option (symbol "|")
  let first ← name
  let others ← many do symbol "|"; name
  return first :: others

def symbolDefinition : Parser SymbolDefinition := do
  let _ ← option string
  let name ← symbolName
  let directives ← directives false
  return { name, directives }

def rootDeclaration : Parser RootDeclaration := do
  let kind ← operationKind
  symbol ":"
  let type ← name
  return { kind, type }

/-- What an extension adds: directives followed by a body, or directives alone. -/
def addition (body : Parser (List α)) : Parser (List Directive × List α) :=
  (do
    let directives ← directives false
    let body ← body
    return (directives, body)) <|>
  (do return (← directives1 false, []))

def schemaDefinition : Parser SchemaDefinition :=
  (do
    symbol "schema"
    let directives ← directives false
    let roots ← braced rootDeclaration
    return { extension := false, directives, roots }) <|>
  (do
    symbol "extend"
    symbol "schema"
    let (directives, roots) ← addition (braced rootDeclaration)
    return { extension := true, directives, roots })

def plainDefinition (keyword : String) (body : Parser (List Directive × TypeBody)) :
    Parser TypeDefinition := do
  let _ ← option string
  symbol keyword
  let name ← name
  let (directives, body) ← body
  return { extension := false, name, directives, body }

def extendingDefinition (keyword : String) (body : Parser (List Directive × TypeBody)) :
    Parser TypeDefinition := do
  symbol "extend"
  symbol keyword
  let name ← name
  let (directives, body) ← body
  return { extension := true, name, directives, body }

def scalarType : Parser TypeDefinition :=
  plainDefinition "scalar" (do return (← directives false, .scalar)) <|>
  extendingDefinition "scalar" (do return (← directives1 false, .scalar))

def optionalInterfaces : Parser (List String) := do
  return (← option interfaceNames).getD []

def objectType : Parser TypeDefinition :=
  plainDefinition "type" (do
    let interfaces ← optionalInterfaces
    let directives ← directives false
    let fields := (← option (braced fieldDefinition)).getD []
    return (directives, .object interfaces fields)) <|>
  extendingDefinition "type"
    ((do
      let interfaces ← optionalInterfaces
      let (directives, fields) ← addition (braced fieldDefinition)
      return (directives, .object interfaces fields)) <|>
    (do return ([], .object (← interfaceNames) [])))

def interfaceType : Parser TypeDefinition :=
  plainDefinition "interface" (do
    let interfaces ← optionalInterfaces
    let directives ← directives false
    let fields := (← option (braced fieldDefinition)).getD []
    return (directives, .interface interfaces fields)) <|>
  extendingDefinition "interface" (do
    let interfaces ← optionalInterfaces
    let (directives, fields) ← addition (braced fieldDefinition)
    return (directives, .interface interfaces fields))

def listedType (keyword : String) (items : Parser (List α)) (body : List α → TypeBody) :
    Parser TypeDefinition :=
  plainDefinition keyword (do
    let directives ← directives false
    return (directives, body ((← option items).getD []))) <|>
  extendingDefinition keyword (do
    let (directives, items) ← addition items
    return (directives, body items))

def typeDefinition : Parser TypeDefinition :=
  scalarType <|> objectType <|> interfaceType <|>
  listedType "union" memberNames .union <|>
  listedType "enum" (braced symbolDefinition) .enumeration <|>
  listedType "input" (braced inputDefinition) .input

/-- The places a directive may be declared for. A name that starts another one stands after it. -/
def directivePlaces : List String :=
  ["QUERY", "MUTATION", "SUBSCRIPTION", "FIELD_DEFINITION", "FIELD", "FRAGMENT_DEFINITION",
    "FRAGMENT_SPREAD", "INLINE_FRAGMENT", "VARIABLE_DEFINITION", "SCHEMA", "SCALAR", "OBJECT",
    "ARGUMENT_DEFINITION", "INTERFACE", "UNION", "ENUM_VALUE", "ENUM", "INPUT_OBJECT",
    "INPUT_FIELD_DEFINITION"]

def directiveDefinition : Parser DirectiveDefinition := do
  let _ ← option string
  symbol "directive"
  symbol "@"
  let name ← name
  let arguments := (← option argumentDefinitions).getD []
  let _ ← option (symbol "repeatable")
  symbol "on"
  let _ ← option (symbol "|")
  let first ← lexeme (firstOf directivePlaces)
  let others ← many do symbol "|"; lexeme (firstOf directivePlaces)
  return { name, arguments, locations := first :: others }

def definition : Parser Definition :=
  (do return .schema (← schemaDefinition)) <|>
  (do return .type (← typeDefinition)) <|>
  (do return .directive (← directiveDefinition))

def syntaxErrorMessage : String := "<graphql syntax error>"

inductive DocumentFault
  | badSyntax
  | missingQueryRoot
  | repeatedRoot (kind : OperationKind)
deriving DecidableEq, Repr

def DocumentFault.message : DocumentFault → String
  | badSyntax => syntaxErrorMessage
  | missingQueryRoot => "schema definition is missing query root"
  | repeatedRoot kind => "multiple " ++ kind.word ++ " roots in schema definition"

mutual

def Literal.overflows : Literal → Bool
  | .number numeral => numeral.overflows
  | .list items => anyOverflows items
  | .object fields => anyFieldOverflows fields
  | .reference _ | .text _ | .boolean _ | .null | .symbol _ => false

def anyOverflows : List Literal → Bool
  | [] => false
  | item :: items => item.overflows || anyOverflows items

def anyFieldOverflows : List (String × Literal) → Bool
  | [] => false
  | (_, value) :: fields => value.overflows || anyFieldOverflows fields

end

def Directive.overflows (directive : Directive) : Bool := anyFieldOverflows directive.arguments

def InputDefinition.overflows (input : InputDefinition) : Bool :=
  input.default.any Literal.overflows || input.directives.any Directive.overflows

def FieldDefinition.overflows (field : FieldDefinition) : Bool :=
  field.arguments.any InputDefinition.overflows || field.directives.any Directive.overflows

def TypeBody.overflows : TypeBody → Bool
  | .scalar | .union _ => false
  | .object _ fields | .interface _ fields => fields.any FieldDefinition.overflows
  | .enumeration symbols => symbols.any fun symbol => symbol.directives.any Directive.overflows
  | .input fields => fields.any InputDefinition.overflows

/-- The first kind of operation that is declared a second time, given the kinds declared before. -/
def repeatedRoot : List OperationKind → List RootDeclaration → Option OperationKind
  | _, [] => none
  | seen, root :: roots =>
    if root.kind ∈ seen then some root.kind else repeatedRoot (root.kind :: seen) roots

def SchemaDefinition.fault (schema : SchemaDefinition) : Option DocumentFault :=
  if schema.directives.any Directive.overflows then some .badSyntax
  else
    match repeatedRoot [] schema.roots with
    | some kind => some (.repeatedRoot kind)
    | none =>
      if !schema.extension && schema.roots.all (fun root => root.kind != .query) then
        some .missingQueryRoot
      else none

def Definition.fault : Definition → Option DocumentFault
  | .schema definition => definition.fault
  | .type definition =>
    if definition.directives.any Directive.overflows || definition.body.overflows then
      some .badSyntax
    else none
  | .directive definition =>
    if definition.arguments.any InputDefinition.overflows then some .badSyntax else none

/-- Reads a schema document; the first faulty definition settles the error. -/
def readSchemaDocument (source : String) : Except DocumentFault (List Definition) :=
  match whole (do ignored; many1 definition) source with
  | none => .error .badSyntax
  | some definitions =>
    match definitions.findSome? Definition.fault with
    | some fault => .error fault
    | none => .ok definitions

end GatewayControl.GraphQL
