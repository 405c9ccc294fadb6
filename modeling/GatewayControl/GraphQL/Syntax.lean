import GatewayControl.Text.Numeral

/-!
Syntax trees of the two kinds of GraphQL document: schema documents, which define types, and
executable documents, which query them. The trees keep what later checks look at: names, types,
roots, selections and literals. Descriptions are read over and dropped.
-/

namespace GatewayControl.GraphQL

inductive Literal
  | reference (name : String)
  | number (numeral : Numeral)
  | text (content : String)
  | boolean (value : Bool)
  | null
  | symbol (name : String)
  | list (items : List Literal)
  | object (fields : List (String × Literal))

structure Directive where
  name : String
  arguments : List (String × Literal)

/-- A type as written where it is used: a name or a list, either of them possibly marked as never
null. -/
inductive TypeRef
  | named (name : String) (required : Bool)
  | list (item : TypeRef) (required : Bool)
deriving DecidableEq, Repr

namespace TypeRef

def requiredMark (required : Bool) : String := if required then "!" else ""

def render : TypeRef → String
  | named name required => name ++ requiredMark required
  | list item required => "[" ++ item.render ++ "]" ++ requiredMark required

def base : TypeRef → String
  | named name _ => name
  | list item _ => item.base

end TypeRef

structure InputDefinition where
  name : String
  type : TypeRef
  default : Option Literal
  directives : List Directive

structure FieldDefinition where
  name : String
  arguments : List InputDefinition
  type : TypeRef
  directives : List Directive

structure SymbolDefinition where
  name : String
  directives : List Directive

inductive TypeBody
  | scalar
  | object (interfaces : List String) (fields : List FieldDefinition)
  | interface (interfaces : List String) (fields : List FieldDefinition)
  | union (members : List String)
  | enumeration (symbols : List SymbolDefinition)
  | input (fields : List InputDefinition)

structure TypeDefinition where
  extension : Bool
  name : String
  directives : List Directive
  body : TypeBody

inductive OperationKind
  | query
  | mutation
  | subscription
deriving DecidableEq, Repr

def OperationKind.word : OperationKind → String
  | query => "query"
  | mutation => "mutation"
  | subscription => "subscription"

structure RootDeclaration where
  kind : OperationKind
  type : String
deriving DecidableEq, Repr

structure SchemaDefinition where
  extension : Bool
  directives : List Directive
  roots : List RootDeclaration

structure DirectiveDefinition where
  name : String
  arguments : List InputDefinition
  locations : List String

inductive Definition
  | schema (definition : SchemaDefinition)
  | type (definition : TypeDefinition)
  | directive (definition : DirectiveDefinition)

inductive Selection
  | field (label : Option String) (name : String) (arguments : List (String × Literal))
      (directives : List Directive) (selections : List Selection)
  | spread (fragment : String) (directives : List Directive)
  | inlineFragment (condition : Option String) (directives : List Directive)
      (selections : List Selection)

structure VariableDefinition where
  name : String
  type : TypeRef
  directives : List Directive
  default : Option Literal

inductive Executable
  | operation (kind : OperationKind) (name : Option String)
      (declared : List VariableDefinition) (directives : List Directive)
      (selections : List Selection)
  | fragment (name : String) (condition : String) (directives : List Directive)
      (selections : List Selection)

end GatewayControl.GraphQL
