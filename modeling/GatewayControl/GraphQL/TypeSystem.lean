import GatewayControl.GraphQL.SchemaDocument
import GatewayControl.NameMap

/-!
The type system that a schema document defines: its object types with their fields in the order of
the document, the names of its other types, and the object types at which operations start.

The definitions are taken one by one; extensions and the types of fields are put aside until all
names are known. So it does not matter for an extension or a field where the type it names is
defined.
-/

namespace GatewayControl.GraphQL

structure ObjectField where
  name : String
  type : String
  arguments : List String
deriving DecidableEq, Repr

structure ObjectType where
  name : String
  fields : List ObjectField
deriving DecidableEq, Repr

def ObjectType.field? (object : ObjectType) (name : String) : Option ObjectField :=
  object.fields.find? fun field => field.name = name

structure TypeSystem where
  queryType : String
  mutationType : Option String
  subscriptionType : Option String
  objectTypes : List ObjectType
  otherTypes : NameSet
deriving DecidableEq

inductive TypeFault
  | document (fault : DocumentFault)
  | repeatedType (name : String)
  | undefinedExtension (name : String)
  | repeatedField (type field : String)
  | unknownType (name owner : String)
  | noQueryType (name : String)
  | undefinedRoot (name : String)
deriving DecidableEq, Repr

def TypeFault.message : TypeFault → String
  | document fault => fault.message
  | repeatedType name => "type " ++ name ++ " is defined more than once"
  | undefinedExtension name => "cannot extend undefined type " ++ name
  | repeatedField type field => "field " ++ type ++ "." ++ field ++ " is defined more than once"
  | unknownType name owner => "unknown type " ++ name ++ " referenced by " ++ owner
  | noQueryType name => "schema does not define query type " ++ name
  | undefinedRoot name => "root type " ++ name ++ " is not defined"

def builtinScalars : List String := ["Int", "Float", "String", "Boolean", "ID"]

structure TypeUse where
  owner : String
  type : String
deriving DecidableEq, Repr

structure Extension where
  type : String
  fields : List ObjectField
deriving DecidableEq, Repr

structure Census where
  queryRoot : Option String := none
  mutationRoot : Option String := none
  subscriptionRoot : Option String := none
  objects : List ObjectType := []
  others : NameSet := ∅
  extensions : List Extension := []
  uses : List TypeUse := []

def FieldDefinition.objectField (field : FieldDefinition) : ObjectField where
  name := field.name
  type := field.type.render
  arguments := field.arguments.map InputDefinition.name

def FieldDefinition.uses (type : String) (field : FieldDefinition) : List TypeUse :=
  let owner := type ++ "." ++ field.name
  ⟨owner, field.type.base⟩ :: field.arguments.map fun argument => ⟨owner, argument.type.base⟩

def rootOf (kind : OperationKind) (roots : List RootDeclaration) : Option String :=
  (roots.find? fun root => root.kind = kind).map RootDeclaration.type

namespace Census

def definesObject (census : Census) (name : String) : Bool :=
  census.objects.any fun object => object.name = name

def defines (census : Census) (name : String) : Bool :=
  census.definesObject name || census.others.contains name

def addSchema (census : Census) (schema : SchemaDefinition) : Census :=
  { census with
    queryRoot := (rootOf .query schema.roots).or census.queryRoot
    mutationRoot := (rootOf .mutation schema.roots).or census.mutationRoot
    subscriptionRoot := (rootOf .subscription schema.roots).or census.subscriptionRoot }

def addUses (census : Census) (type : String) (fields : List FieldDefinition) : Census :=
  { census with uses := census.uses ++ fields.flatMap (FieldDefinition.uses type) }

/-- Takes up the name of a type that is no object type, unless only an extension names it. -/
def addOther (census : Census) (type : TypeDefinition) : Except TypeFault Census :=
  if type.extension then .ok census
  else if census.defines type.name then .error (.repeatedType type.name)
  else .ok { census with others := census.others.insert type.name () }

def addObject (census : Census) (type : TypeDefinition) (fields : List FieldDefinition) :
    Except TypeFault Census :=
  let fields := fields.map FieldDefinition.objectField
  if type.extension then
    .ok { census with extensions := census.extensions ++ [⟨type.name, fields⟩] }
  else if census.defines type.name then .error (.repeatedType type.name)
  else .ok { census with objects := census.objects ++ [⟨type.name, fields⟩] }

def add (census : Census) : Definition → Except TypeFault Census
  | .schema schema => .ok (census.addSchema schema)
  | .directive _ => .ok census
  | .type type =>
    match type.body with
    | .object _ fields => (census.addUses type.name fields).addObject type fields
    | .interface _ fields => (census.addUses type.name fields).addOther type
    | .scalar | .union _ | .enumeration _ | .input _ => census.addOther type

def ofDefinitions (definitions : List Definition) : Except TypeFault Census :=
  definitions.foldlM add {}

end Census

def ObjectType.extend (object : ObjectType) : List ObjectField → Except TypeFault ObjectType
  | [] => .ok object
  | field :: fields =>
    if (object.field? field.name).isSome then .error (.repeatedField object.name field.name)
    else { object with fields := object.fields ++ [field] }.extend fields

/-- Applies an extension to the first object type of its name. -/
def Extension.apply (extension : Extension) : List ObjectType → Except TypeFault (List ObjectType)
  | [] => .error (.undefinedExtension extension.type)
  | object :: objects =>
    if object.name = extension.type then do
      return (← object.extend extension.fields) :: objects
    else do
      return object :: (← extension.apply objects)

def applyExtensions (objects : List ObjectType) (extensions : List Extension) :
    Except TypeFault (List ObjectType) :=
  extensions.foldlM (fun objects extension => extension.apply objects) objects

namespace TypeSystem

/-- The root of a kind of operation that need not exist: the declared one, or else the object type
of the usual name if there is one. -/
def optionalRoot (isObject : String → Bool) (usual : String) :
    Option String → Except TypeFault (Option String)
  | some name => if isObject name then .ok (some name) else .error (.undefinedRoot name)
  | none => .ok (if isObject usual then some usual else none)

def ofDefinitions (definitions : List Definition) : Except TypeFault TypeSystem := do
  let census ← Census.ofDefinitions definitions
  let objects ← applyExtensions census.objects census.extensions
  let isKnown (name : String) : Bool := name ∈ builtinScalars || census.defines name
  match census.uses.find? fun use => !isKnown use.type with
  | some use => throw (.unknownType use.type use.owner)
  | none =>
    let isObject := census.definesObject
    let query := census.queryRoot.getD "Query"
    if !isObject query then throw (.noQueryType query)
    let mutation ← optionalRoot isObject "Mutation" census.mutationRoot
    let subscription ← optionalRoot isObject "Subscription" census.subscriptionRoot
    return {
      queryType := query
      mutationType := mutation
      subscriptionType := subscription
      objectTypes := objects
      otherTypes := census.others }

def parse (source : String) : Except TypeFault TypeSystem :=
  match readSchemaDocument source with
  | .error fault => .error (.document fault)
  | .ok definitions => ofDefinitions definitions

theorem parse_eq (source : String) :
    parse source =
      match readSchemaDocument source with
      | .error fault => .error (.document fault)
      | .ok definitions => ofDefinitions definitions := by
  delta parse
  rfl

attribute [irreducible] parse

def object? (system : TypeSystem) (name : String) : Option ObjectType :=
  system.objectTypes.find? fun object => object.name = name

def fieldCount (system : TypeSystem) : Nat :=
  system.objectTypes.foldr (fun object count => object.fields.length + count) 0

end TypeSystem

end GatewayControl.GraphQL
