import GatewayControl.Store.Call

/-!
A store in memory. Objects are listed by name.
-/

namespace GatewayControl

structure Catalog (α : Type) [StoredObject α] where
  objects : NameMap α
  named : ∀ name object, objects.get? name = some object → StoredObject.name object = name
deriving DecidableEq

namespace Catalog

variable {α : Type} [StoredObject α]

instance : EmptyCollection (Catalog α) := ⟨⟨∅, fun _ _ found => nomatch found⟩⟩

def get? (catalog : Catalog α) (name : String) : Option α := catalog.objects.get? name

theorem named_insert (catalog : Catalog α) (object : α) (name : String) (found : α)
    (stands : (catalog.objects.insert (StoredObject.name object) object).get? name = some found) :
    StoredObject.name found = name := by
  rw [NameMap.get?_insert] at stands
  split at stands
  · rename_i same
    cases stands
    exact same.symm
  · exact catalog.named name found stands

def put (catalog : Catalog α) (object : α) : Catalog α :=
  ⟨catalog.objects.insert (StoredObject.name object) object, catalog.named_insert object⟩

def values (catalog : Catalog α) : List α := catalog.objects.values

end Catalog

structure MemoryStore where
  schemas : Catalog Schema := ∅
  maps : Catalog ResolverMap := ∅
deriving DecidableEq

namespace MemoryStore

section

variable {α : Type} [StoredObject α]

open StoredObject

def getIn (catalog : Catalog α) (name : String) : Except StorageFault α :=
  match catalog.get? name with
  | some object => .ok object
  | none => .error (.notFound (kind α) name)

def updateIn (catalog : Catalog α) (object : α) : Except StorageFault α × Catalog α :=
  match catalog.get? (name object) with
  | none => (.error (.notFound (kind α) (name object)), catalog)
  | some current =>
    if version object = version current then
      let updated := withVersion object (nextVersion (version current))
      (.ok updated, catalog.put updated)
    else
      (.error (.conflict (kind α) (name object) (version object) (version current)), catalog)

def createIn (catalog : Catalog α) (object : α) : Except StorageFault α × Catalog α :=
  match nameFault (name object) with
  | some fault => (.error (.invalidName (kind α) fault.message), catalog)
  | none =>
    match catalog.get? (name object) with
    | some _ => (.error (.alreadyExists (kind α) (name object)), catalog)
    | none =>
      let created := withVersion object 1
      (.ok created, catalog.put created)

/-- Stores an object whatever is stored, under version 1 if it has none. -/
def putIn (catalog : Catalog α) (object : α) : Catalog α :=
  catalog.put (withVersion object (max (version object) 1))

end

def putSchema (store : MemoryStore) (schema : Schema) : MemoryStore :=
  { store with schemas := putIn store.schemas schema }

def putMap (store : MemoryStore) (map : ResolverMap) : MemoryStore :=
  { store with maps := putIn store.maps map }

def handle : StoreHandler MemoryStore
  | .getSchema name, store => (getIn store.schemas name, store)
  | .updateSchema schema, store =>
    let (reply, schemas) := updateIn store.schemas schema
    (reply, { store with schemas })
  | .listSchemas, store => (.ok store.schemas.values, store)
  | .getMap name, store => (getIn store.maps name, store)
  | .createMap map, store =>
    let (reply, maps) := createIn store.maps map
    (reply, { store with maps })
  | .updateMap map, store =>
    let (reply, maps) := updateIn store.maps map
    (reply, { store with maps })
  | .listMaps, store => (.ok store.maps.values, store)

def snapshot (store : MemoryStore) : Snapshot := ⟨store.schemas.values, store.maps.values⟩

end MemoryStore

end GatewayControl
