import GatewayControl.Proofs.Catalog
import GatewayControl.Proofs.History

/-!
What a store in memory answers to a call, and what it holds afterwards. What a call does to the objects
of a kind is said once for both kinds, and once more for the objects of a store, whichever kind they
are of.
-/

namespace GatewayControl

namespace Catalog

variable {α : Type} [StoredObject α]

open StoredObject

def Gets (catalog : Catalog α) (objectName : String) (reply : Except StorageFault α) : Prop :=
  ∀ object, reply = .ok object → catalog.get? objectName = some object

inductive Updates (catalog : Catalog α) (object : α) : Except StorageFault α → Catalog α → Prop
  | failed (fault : StorageFault) : catalog.Updates object (.error fault) catalog
  | updated {current : α} : catalog.get? (name object) = some current →
      version object = version current →
      catalog.Updates object (.ok (withVersion object (nextVersion (version current))))
        (catalog.put (withVersion object (nextVersion (version current))))

inductive Creates (catalog : Catalog α) (object : α) : Except StorageFault α → Catalog α → Prop
  | failed (fault : StorageFault) : catalog.Creates object (.error fault) catalog
  | created : ValidName (name object) → catalog.get? (name object) = none →
      catalog.Creates object (.ok (withVersion object 1)) (catalog.put (withVersion object 1))

section

variable {catalog after : Catalog α} {object : α} {reply : Except StorageFault α}

theorem Updates.cases (updates : catalog.Updates object reply after) :
    (after = catalog ∧ ∃ fault, reply = .error fault) ∨
      ∃ current, catalog.get? (name object) = some current ∧ version object = version current ∧
        reply = .ok (withVersion object (nextVersion (version current))) ∧
        after = catalog.put (withVersion object (nextVersion (version current))) := by
  cases updates with
  | failed fault => exact .inl ⟨rfl, fault, rfl⟩
  | updated found same => exact .inr ⟨_, found, same, rfl, rfl⟩

theorem Creates.cases (creates : catalog.Creates object reply after) :
    (after = catalog ∧ ∃ fault, reply = .error fault) ∨
      (ValidName (name object) ∧ catalog.get? (name object) = none ∧
        reply = .ok (withVersion object 1) ∧ after = catalog.put (withVersion object 1)) := by
  cases creates with
  | failed fault => exact .inl ⟨rfl, fault, rfl⟩
  | created valid absent => exact .inr ⟨valid, absent, rfl, rfl⟩

end

end Catalog

namespace MemoryStore

section

variable {α : Type} [StoredObject α] {catalog : Catalog α}

open StoredObject

theorem getIn_gets (catalog : Catalog α) (objectName : String) :
    catalog.Gets objectName (getIn catalog objectName) := by
  intro object got
  rw [getIn] at got
  split at got <;> cases got
  assumption

theorem updateIn_of_current (object current : α)
    (found : catalog.get? (name object) = some current) (same : version object = version current) :
    updateIn catalog object = (.ok (withVersion object (nextVersion (version current))),
      catalog.put (withVersion object (nextVersion (version current)))) := by
  simp only [updateIn, found, if_pos same]

theorem updateIn_updates (catalog : Catalog α) (object : α) :
    catalog.Updates object (updateIn catalog object).1 (updateIn catalog object).2 := by
  cases found : catalog.get? (name object) with
  | none =>
      simp only [updateIn, found]
      exact .failed _
  | some current =>
      by_cases same : version object = version current
      · rw [updateIn_of_current _ _ found same]
        exact .updated found same
      · simp only [updateIn, found, if_neg same]
        exact .failed _

theorem createIn_creates (catalog : Catalog α) (object : α) :
    catalog.Creates object (createIn catalog object).1 (createIn catalog object).2 := by
  cases valid : nameFault (name object) with
  | some fault =>
      simp only [createIn, valid]
      exact .failed _
  | none =>
      cases found : catalog.get? (name object) with
      | some other =>
          simp only [createIn, valid, found]
          exact .failed _
      | none =>
          simp only [createIn, valid, found]
          exact .created valid found

end

/-- What a store may answer to a call, and what it is after it. Every call may fail, and then changes
nothing. -/
def Answers : (call : StoreCall) → MemoryStore → call.Reply → MemoryStore → Prop
  | .getSchema name, store, reply, after => store.schemas.Gets name reply ∧ after = store
  | .updateSchema schema, store, reply, after =>
    ∃ schemas, store.schemas.Updates schema reply schemas ∧ after = { store with schemas }
  | .listSchemas, store, reply, after =>
    (∀ schemas, reply = .ok schemas → schemas = store.schemas.values) ∧ after = store
  | .getMap name, store, reply, after => store.maps.Gets name reply ∧ after = store
  | .createMap map, store, reply, after =>
    ∃ maps, store.maps.Creates map reply maps ∧ after = { store with maps }
  | .updateMap map, store, reply, after =>
    ∃ maps, store.maps.Updates map reply maps ∧ after = { store with maps }
  | .listMaps, store, reply, after =>
    (∀ maps, reply = .ok maps → maps = store.maps.values) ∧ after = store

theorem handle_answers (call : StoreCall) (store : MemoryStore) :
    Answers call store (handle call store).1 (handle call store).2 := by
  cases call with
  | getSchema name => exact ⟨getIn_gets _ _, rfl⟩
  | updateSchema schema => exact ⟨_, updateIn_updates _ _, rfl⟩
  | listSchemas => exact ⟨fun _ listed => (Except.ok.inj listed).symm, rfl⟩
  | getMap name => exact ⟨getIn_gets _ _, rfl⟩
  | createMap map => exact ⟨_, createIn_creates _ _, rfl⟩
  | updateMap map => exact ⟨_, updateIn_updates _ _, rfl⟩
  | listMaps => exact ⟨fun _ listed => (Except.ok.inj listed).symm, rfl⟩

theorem Answers.failed (call : StoreCall) (store : MemoryStore) (fault : StorageFault) :
    Answers call store (.error fault) store := by
  cases call with
  | getSchema | listSchemas | getMap | listMaps => exact ⟨(fun _ got => by cases got), rfl⟩
  | updateSchema | updateMap => exact ⟨_, .failed fault, rfl⟩
  | createMap => exact ⟨_, .failed fault, rfl⟩

end MemoryStore

/-! Objects of either kind. -/

theorem StoreCall.got_eq_error_iff {object : ObjectRef} {reply : (StoreCall.get object).Reply}
    {fault : StorageFault} : StoreCall.got object reply = .error fault ↔ reply = .error fault := by
  obtain ⟨kind, name⟩ := object
  cases kind <;> cases reply <;> simp [StoreCall.got, Except.map]

namespace MemoryStore

def contents (store : MemoryStore) : Contents
  | ⟨.schema, name⟩ => (store.schemas.get? name).map .schema
  | ⟨.resolverMap, name⟩ => (store.maps.get? name).map .resolverMap

def put (store : MemoryStore) : StoredItem → MemoryStore
  | .schema schema => { store with schemas := store.schemas.put schema }
  | .resolverMap map => { store with maps := store.maps.put map }

theorem contents_schema {store : MemoryStore} {name : String} {found : Option Schema}
    (stored : store.schemas.get? name = found) :
    store.contents ⟨.schema, name⟩ = found.map StoredItem.schema :=
  congrArg (Option.map StoredItem.schema) stored

theorem contents_map {store : MemoryStore} {name : String} {found : Option ResolverMap}
    (stored : store.maps.get? name = found) :
    store.contents ⟨.resolverMap, name⟩ = found.map StoredItem.resolverMap :=
  congrArg (Option.map StoredItem.resolverMap) stored

theorem ref_of_contents {store : MemoryStore} {object : ObjectRef} {item : StoredItem}
    (found : store.contents object = some item) : item.ref = object := by
  obtain ⟨kind, name⟩ := object
  cases kind with
  | schema =>
      obtain ⟨schema, there, rfl⟩ := Option.map_eq_some_iff.1 found
      exact congrArg (ObjectRef.mk .schema) (Catalog.name_of_get? there)
  | resolverMap =>
      obtain ⟨map, there, rfl⟩ := Option.map_eq_some_iff.1 found
      exact congrArg (ObjectRef.mk .resolverMap) (Catalog.name_of_get? there)

theorem contents_put (store : MemoryStore) (item : StoredItem) :
    (store.put item).contents = store.contents.put item := by
  funext ⟨kind, name⟩
  cases item with
  | schema schema =>
      cases kind with
      | schema =>
          simp only [contents, put, Contents.put, StoredItem.ref, Catalog.get?_put, ObjectRef.mk.injEq,
            true_and, StoredObject.name]
          split <;> rfl
      | resolverMap => simp [contents, put, Contents.put, StoredItem.ref]
  | resolverMap map =>
      cases kind with
      | schema => simp [contents, put, Contents.put, StoredItem.ref]
      | resolverMap =>
          simp only [contents, put, Contents.put, StoredItem.ref, Catalog.get?_put, ObjectRef.mk.injEq,
            true_and, StoredObject.name]
          split <;> rfl

theorem contents_put_self (store : MemoryStore) (item : StoredItem) :
    (store.put item).contents item.ref = some item := by
  rw [contents_put, Contents.put_self]

theorem handle_get {store : MemoryStore} {object : ObjectRef} {item : StoredItem}
    (found : store.contents object = some item) :
    StoreCall.got object (handle (.get object) store).1 = .ok item ∧
      (handle (.get object) store).2 = store := by
  obtain ⟨kind, name⟩ := object
  cases kind with
  | schema =>
      obtain ⟨schema, there, rfl⟩ := Option.map_eq_some_iff.1 found
      simp [StoreCall.get, StoreCall.got, handle, getIn, there, Except.map]
  | resolverMap =>
      obtain ⟨map, there, rfl⟩ := Option.map_eq_some_iff.1 found
      simp [StoreCall.get, StoreCall.got, handle, getIn, there, Except.map]

theorem contents_of_get_error {store : MemoryStore} {object : ObjectRef} {fault : StorageFault}
    (failed : (handle (.get object) store).1 = .error fault) : store.contents object = none := by
  cases found : store.contents object with
  | none => rfl
  | some item =>
      obtain ⟨got, -⟩ := handle_get found
      cases got.symm.trans (StoreCall.got_eq_error_iff.2 failed)

theorem handle_update {store : MemoryStore} {item current : StoredItem}
    (found : store.contents item.ref = some current) (same : item.version = current.version) :
    (∃ updated, (handle (.update item) store).1 = .ok updated) ∧
      (handle (.update item) store).2 = store.put (item.withVersion (nextVersion current.version)) := by
  cases item with
  | schema schema =>
      obtain ⟨stored, there, rfl⟩ := Option.map_eq_some_iff.1 found
      have updated := updateIn_of_current _ _ there same
      simp only [StoreCall.update, handle, updated]
      exact ⟨⟨_, rfl⟩, rfl⟩
  | resolverMap map =>
      obtain ⟨stored, there, rfl⟩ := Option.map_eq_some_iff.1 found
      have updated := updateIn_of_current _ _ there same
      simp only [StoreCall.update, handle, updated]
      exact ⟨⟨_, rfl⟩, rfl⟩

namespace Answers

variable {store after : MemoryStore} {call : StoreCall} {reply : call.Reply}

theorem of_get {object : ObjectRef} {reply : (StoreCall.get object).Reply}
    (answers : Answers (.get object) store reply after) :
    after = store ∧
      ∀ item, StoreCall.got object reply = .ok item → store.contents object = some item := by
  obtain ⟨kind, name⟩ := object
  cases kind with
  | schema =>
      obtain ⟨gets, same⟩ := answers
      refine ⟨same, fun item got => ?_⟩
      cases reply with
      | error fault => cases got
      | ok schema =>
          cases got
          exact contents_schema (gets schema rfl)
  | resolverMap =>
      obtain ⟨gets, same⟩ := answers
      refine ⟨same, fun item got => ?_⟩
      cases reply with
      | error fault => cases got
      | ok map =>
          cases got
          exact contents_map (gets map rfl)

theorem of_update {item : StoredItem} {reply : (StoreCall.update item).Reply}
    (answers : Answers (.update item) store reply after) :
    (after = store ∧ ∃ fault, reply = .error fault) ∨
      ∃ current, store.contents item.ref = some current ∧ item.version = current.version ∧
        (∃ updated, reply = .ok updated) ∧
        after = store.put (item.withVersion (nextVersion current.version)) := by
  cases item with
  | schema schema =>
      obtain ⟨schemas, updates, rfl⟩ := answers
      cases updates with
      | failed fault => exact .inl ⟨rfl, fault, rfl⟩
      | updated found same => exact .inr ⟨_, contents_schema found, same, ⟨_, rfl⟩, rfl⟩
  | resolverMap map =>
      obtain ⟨maps, updates, rfl⟩ := answers
      cases updates with
      | failed fault => exact .inl ⟨rfl, fault, rfl⟩
      | updated found same => exact .inr ⟨_, contents_map found, same, ⟨_, rfl⟩, rfl⟩

/-- A call changes nothing, or puts an object of the next version in the place of the stored one, or
adds an object. -/
theorem cases (answers : Answers call store reply after) :
    after = store ∨
    (∃ asked current : StoredItem, store.contents asked.ref = some current ∧
      asked.version = current.version ∧
      after = store.put (asked.withVersion (nextVersion current.version))) ∨
    ∃ asked : StoredItem, store.contents asked.ref = none ∧ after = store.put (asked.withVersion 1) := by
  cases call with
  | getSchema | listSchemas | getMap | listMaps => exact .inl answers.2
  | updateSchema schema =>
      obtain ⟨schemas, written, rfl⟩ := answers
      rcases written.cases with ⟨rfl, -⟩ | ⟨current, found, same, -, rfl⟩
      · exact .inl rfl
      · exact .inr (.inl ⟨.schema schema, _, contents_schema found, same, rfl⟩)
  | updateMap map =>
      obtain ⟨maps, written, rfl⟩ := answers
      rcases written.cases with ⟨rfl, -⟩ | ⟨current, found, same, -, rfl⟩
      · exact .inl rfl
      · exact .inr (.inl ⟨.resolverMap map, _, contents_map found, same, rfl⟩)
  | createMap map =>
      obtain ⟨maps, written, rfl⟩ := answers
      rcases written.cases with ⟨rfl, -⟩ | ⟨-, absent, -, rfl⟩
      · exact .inl rfl
      · exact .inr (.inr ⟨.resolverMap map, contents_map absent, rfl⟩)

theorem contents (answers : Answers call store reply after) :
    store.contents.Answers call reply after.contents := by
  cases call with
  | getSchema name =>
      obtain ⟨gets, rfl⟩ := answers
      cases reply with
      | error fault => exact .failed _ _ _
      | ok schema =>
          have found := Catalog.get?_own (gets schema rfl)
          exact .kept rfl rfl (List.forall_mem_singleton.2 (contents_schema found))
  | updateSchema schema =>
      obtain ⟨schemas, updates, rfl⟩ := answers
      cases updates with
      | failed fault => exact .failed _ _ _
      | updated found same =>
          have put := contents_put store (.schema { schema with version := nextVersion schema.version })
          rw [← same]
          exact put ▸ @Contents.Answers.updated _ _ _ (.schema schema) _ rfl rfl
            (contents_schema found) same rfl
  | listSchemas =>
      obtain ⟨lists, rfl⟩ := answers
      cases reply with
      | error fault => exact .failed _ _ _
      | ok schemas =>
          cases lists schemas rfl
          exact .kept rfl rfl (List.forall_mem_map.2 fun schema member =>
            contents_schema (Catalog.mem_values.1 member))
  | getMap name =>
      obtain ⟨gets, rfl⟩ := answers
      cases reply with
      | error fault => exact .failed _ _ _
      | ok map =>
          have found := Catalog.get?_own (gets map rfl)
          exact .kept rfl rfl (List.forall_mem_singleton.2 (contents_map found))
  | createMap map =>
      obtain ⟨maps, creates, rfl⟩ := answers
      cases creates with
      | failed fault => exact .failed _ _ _
      | created valid absent =>
          have put := contents_put store (.resolverMap { map with version := 1 })
          exact put ▸ @Contents.Answers.created _ _ _ (.resolverMap map) rfl rfl
            (contents_map absent) rfl
  | updateMap map =>
      obtain ⟨maps, updates, rfl⟩ := answers
      cases updates with
      | failed fault => exact .failed _ _ _
      | updated found same =>
          have put := contents_put store (.resolverMap { map with version := nextVersion map.version })
          rw [← same]
          exact put ▸ @Contents.Answers.updated _ _ _ (.resolverMap map) _ rfl rfl
            (contents_map found) same rfl
  | listMaps =>
      obtain ⟨lists, rfl⟩ := answers
      cases reply with
      | error fault => exact .failed _ _ _
      | ok maps =>
          cases lists maps rfl
          exact .kept rfl rfl (List.forall_mem_map.2 fun map member =>
            contents_map (Catalog.mem_values.1 member))

theorem eq_of_error {fault : StorageFault} (answers : Answers call store (.error fault) after) :
    after = store := by
  cases call with
  | getSchema | listSchemas | getMap | listMaps => exact answers.2
  | updateSchema schema | updateMap map | createMap map =>
      obtain ⟨_, written, rfl⟩ := answers
      cases written
      rfl

end Answers

theorem versioned : Versioned handle contents where
  answers call store := (handle_answers call store).contents
  failed call store fault failed := by
    have answers := handle_answers call store
    rw [failed] at answers
    exact answers.eq_of_error

end MemoryStore

end GatewayControl
