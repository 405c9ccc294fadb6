import GatewayControl.Store.Call

/-!
Stored objects of either kind, and the calls that get and update them.
-/

namespace GatewayControl

inductive StoredItem
  | schema (schema : Schema)
  | resolverMap (map : ResolverMap)
deriving DecidableEq

namespace StoredItem

def ref : StoredItem → ObjectRef
  | .schema stored => ⟨.schema, stored.name⟩
  | .resolverMap stored => ⟨.resolverMap, stored.name⟩

def version : StoredItem → Nat
  | .schema stored => stored.version
  | .resolverMap stored => stored.version

def status : StoredItem → Status
  | .schema stored => stored.status
  | .resolverMap stored => stored.status

def withVersion (number : Nat) : StoredItem → StoredItem
  | .schema stored => .schema { stored with version := number }
  | .resolverMap stored => .resolverMap { stored with version := number }

def withStatus (status : Status) : StoredItem → StoredItem
  | .schema stored => .schema { stored with status }
  | .resolverMap stored => .resolverMap { stored with status }

section

variable (item : StoredItem) (number : Nat) (status : Status)

@[simp] theorem ref_withVersion : (item.withVersion number).ref = item.ref := by
  cases item <;> rfl

@[simp] theorem version_withVersion : (item.withVersion number).version = number := by
  cases item <;> rfl

@[simp] theorem status_withVersion : (item.withVersion number).status = item.status := by
  cases item <;> rfl

@[simp] theorem ref_withStatus : (item.withStatus status).ref = item.ref := by
  cases item <;> rfl

@[simp] theorem version_withStatus : (item.withStatus status).version = item.version := by
  cases item <;> rfl

@[simp] theorem status_withStatus : (item.withStatus status).status = status := by
  cases item <;> rfl

end

end StoredItem

namespace StoreCall

def get : ObjectRef → StoreCall
  | ⟨.schema, name⟩ => .getSchema name
  | ⟨.resolverMap, name⟩ => .getMap name

def got : (object : ObjectRef) → (get object).Reply → Except StorageFault StoredItem
  | ⟨.schema, _⟩, reply => reply.map .schema
  | ⟨.resolverMap, _⟩, reply => reply.map .resolverMap

def update : StoredItem → StoreCall
  | .schema schema => .updateSchema schema
  | .resolverMap map => .updateMap map

end StoreCall

end GatewayControl
