import GatewayControl.Failure
import GatewayControl.Program
import GatewayControl.Snapshot

/-!
The calls that a store answers. An update names the version it was made from in the object itself,
and is refused unless that is the stored version; it returns the object with its new version.
-/

namespace GatewayControl

class StoredObject (α : Type) where
  kind : ObjectKind
  name : α → String
  version : α → Nat
  withVersion : α → Nat → α
  toToml : α → Except Toml.WriteFault Toml.Table
  ofToml? : Toml.Value → Option α
  name_withVersion : ∀ object number, name (withVersion object number) = name object := by
    intros; rfl
  version_withVersion : ∀ object number, version (withVersion object number) = number := by
    intros; rfl

attribute [simp] StoredObject.name_withVersion StoredObject.version_withVersion

/-- The version after another one. Versions are words of 64 bits: after the largest comes 0. -/
def nextVersion (version : Nat) : Nat := (version + 1) % UInt64.size

theorem nextVersion_of_lt {version : Nat} (small : version + 1 < UInt64.size) :
    nextVersion version = version + 1 := Nat.mod_eq_of_lt small

theorem nextVersion_le (version : Nat) : nextVersion version ≤ version + 1 := Nat.mod_le _ _

instance : StoredObject Schema where
  kind := .schema
  name := Schema.name
  version := Schema.version
  withVersion schema version := { schema with version }
  toToml := Schema.toToml
  ofToml? := Schema.ofToml?

instance : StoredObject ResolverMap where
  kind := .resolverMap
  name := ResolverMap.name
  version := ResolverMap.version
  withVersion map version := { map with version }
  toToml := ResolverMap.toToml
  ofToml? := ResolverMap.ofToml?

inductive StoreCall
  | getSchema (name : String)
  | updateSchema (schema : Schema)
  | listSchemas
  | getMap (name : String)
  | createMap (map : ResolverMap)
  | updateMap (map : ResolverMap)
  | listMaps
deriving DecidableEq

namespace StoreCall

@[reducible] def Answer : StoreCall → Type
  | getSchema _ | updateSchema _ => Schema
  | listSchemas => List Schema
  | getMap _ | createMap _ | updateMap _ => ResolverMap
  | listMaps => List ResolverMap

@[reducible] def Reply (call : StoreCall) : Type := Except StorageFault call.Answer

def word : StoreCall → String
  | getSchema _ => "get_schema"
  | updateSchema _ => "update_schema"
  | listSchemas => "list_schemas"
  | getMap _ => "get_resolver_map"
  | createMap _ => "create_resolver_map"
  | updateMap _ => "update_resolver_map"
  | listMaps => "list_resolver_maps"

def object : StoreCall → String
  | getSchema name | getMap name => name
  | updateSchema schema => schema.name
  | createMap map | updateMap map => map.name
  | listSchemas | listMaps => ""

end StoreCall

abbrev StoreProgram := Program StoreCall.Reply

abbrev StoreHandler (σ : Type) := Handler StoreCall.Reply σ

def readMaps (schemas : List Schema) : StoreProgram (Except StorageFault Snapshot) :=
  .call .listMaps fun
    | .error fault => .done (.error fault)
    | .ok maps => .done (.ok ⟨schemas, maps⟩)

def readSnapshot : StoreProgram (Except StorageFault Snapshot) :=
  .call .listSchemas fun
    | .error fault => .done (.error fault)
    | .ok schemas => readMaps schemas

end GatewayControl
