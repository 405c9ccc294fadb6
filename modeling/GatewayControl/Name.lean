import GatewayControl.Text.Quoted

/-!
Names of schemas, resolver maps, upstreams and functions. A name becomes part of request paths and
of file names, so only letters, digits, hyphens, underscores and dots are allowed, and the two names
that mean a directory are not.
-/

namespace GatewayControl

inductive NameFault
  | empty
  | invalidCharacter (name : String) (char : Char)
  | reserved (name : String)
deriving DecidableEq, Repr

def NameFault.message : NameFault → String
  | empty => "name must not be empty"
  | invalidCharacter name char =>
    "name " ++ Text.quote name ++ " contains invalid character " ++ Text.quoteChar char
  | reserved name => "name " ++ Text.quote name ++ " is reserved"

def isNameChar (char : Char) : Bool :=
  char.isAlphanum || char = '-' || char = '_' || char = '.'

def nameFault (name : String) : Option NameFault :=
  if name = "" then some .empty
  else
    match name.toList.find? fun char => !isNameChar char with
    | some char => some (.invalidCharacter name char)
    | none => if name = "." || name = ".." then some (.reserved name) else none

def ValidName (name : String) : Prop := nameFault name = none

instance (name : String) : Decidable (ValidName name) :=
  inferInstanceAs (Decidable (nameFault name = none))

inductive ObjectKind
  | schema
  | resolverMap
deriving DecidableEq, Repr

def ObjectKind.word : ObjectKind → String
  | schema => "schema"
  | resolverMap => "resolver_map"

structure ObjectRef where
  kind : ObjectKind
  name : String
deriving DecidableEq, Repr

def ObjectRef.display (object : ObjectRef) : String := object.kind.word ++ " " ++ object.name

def rootPath (schema : String) : String := "/" ++ schema

def queryPath (schema : String) : String := "/" ++ schema ++ "/query"

def generatedMapName (schema : String) : String := schema ++ "-resolvers"

end GatewayControl
