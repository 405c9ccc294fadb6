import GatewayControl.Proofs.Answers
import GatewayControl.Proofs.Declared
import GatewayControl.Reporter

/-!
What is left in a store by writing reports about objects that are there. Every report ends up as the
status of its object, and nothing else changes but versions.
-/

namespace GatewayControl

namespace MemoryStore

def status? (store : MemoryStore) (object : ObjectRef) : Option Status :=
  match object.kind with
  | .schema => (store.schemas.get? object.name).map Schema.status
  | .resolverMap => (store.maps.get? object.name).map ResolverMap.status

theorem status?_eq (store : MemoryStore) (object : ObjectRef) :
    store.status? object = (store.contents object).map StoredItem.status := by
  obtain ⟨kind, name⟩ := object
  cases kind <;> simp only [status?, contents, Option.map_map] <;> rfl

/-- Whether a store differs from another one in versions and in the status of one object only, which
is as given. -/
structure Restated (object : ObjectRef) (status : Status) (before after : MemoryStore) : Prop where
  declared : after.snapshot.declared = before.snapshot.declared
  statuses : ∀ other, after.status? other = if other = object then some status else before.status? other

variable {store : MemoryStore} {name : String} {status : Status}

theorem Restated.refl {object : ObjectRef} (stored : store.status? object = some status) :
    Restated object status store store := by
  refine ⟨rfl, fun other => ?_⟩
  split
  · rename_i same
    exact same ▸ stored
  · rfl

theorem declared_put {item : StoredItem} (found : store.contents item.ref = some item)
    (status : Status) (number : Nat) :
    (store.put ((item.withStatus status).withVersion number)).snapshot.declared =
      store.snapshot.declared := by
  cases item with
  | schema schema =>
      obtain ⟨_, there, same⟩ := Option.map_eq_some_iff.1 found
      cases same
      have schemas : (store.schemas.put { schema with status, version := number }).values.map
          Schema.declared = store.schemas.values.map Schema.declared :=
        Catalog.map_values_put there rfl
      simp only [put, StoredItem.withStatus, StoredItem.withVersion, snapshot, Snapshot.declared, schemas]
  | resolverMap map =>
      obtain ⟨_, there, same⟩ := Option.map_eq_some_iff.1 found
      cases same
      have maps : (store.maps.put { map with status, version := number }).values.map
          ResolverMap.declared = store.maps.values.map ResolverMap.declared :=
        Catalog.map_values_put there rfl
      simp only [put, StoredItem.withStatus, StoredItem.withVersion, snapshot, Snapshot.declared, maps]

theorem Restated.of_put {item : StoredItem} (found : store.contents item.ref = some item)
    (number : Nat) :
    Restated item.ref status store (store.put ((item.withStatus status).withVersion number)) := by
  refine ⟨declared_put found status number, fun other => ?_⟩
  rw [status?_eq, contents_put, Contents.put, StoredItem.ref_withVersion, StoredItem.ref_withStatus,
    status?_eq]
  split
  · simp
  · rfl

end MemoryStore

namespace Reporter

open MemoryStore (Restated)

variable {store : MemoryStore}

theorem run_writeReport {report : Report} (present : (store.status? report.object).isSome) :
    let run := (writeReport report).run MemoryStore.handle store
    run.1 = none ∧ Restated report.object report.status store run.2 := by
  intro run
  rw [MemoryStore.status?_eq, Option.isSome_map, Option.isSome_iff_exists] at present
  obtain ⟨item, found⟩ := present
  have own := MemoryStore.ref_of_contents found
  obtain ⟨got, kept⟩ := MemoryStore.handle_get found
  by_cases same : item.status = report.status
  · have whole : run = (none, store) := by
      simp [run, writeReport, got, kept, same]
    rw [whole]
    refine ⟨rfl, .refl ?_⟩
    rw [MemoryStore.status?_eq, found, Option.map_some, same]
  · obtain ⟨⟨updated, wrote⟩, put⟩ := MemoryStore.handle_update
      ((congrArg store.contents ((item.ref_withStatus report.status).trans own)).trans found)
      (item.version_withStatus report.status)
    have whole : run = (none, store.put
        ((item.withStatus report.status).withVersion (nextVersion item.version))) := by
      simp [run, writeReport, got, kept, same, wrote, put]
    rw [whole, ← own]
    exact ⟨rfl, .of_put (own ▸ found) _⟩

theorem run_writeAll {reports : List Report} (distinct : (reports.map Report.object).Nodup)
    (present : ∀ report ∈ reports, (store.status? report.object).isSome) (failures : Failures) :
    let run := (writeAll failures reports).run MemoryStore.handle store
    run.1 = failures ∧ run.2.snapshot.declared = store.snapshot.declared ∧
      (∀ report ∈ reports, run.2.status? report.object = some report.status) ∧
      ∀ other, other ∉ reports.map Report.object → run.2.status? other = store.status? other := by
  induction reports generalizing store failures with
  | nil => exact ⟨rfl, rfl, fun _ member => (List.not_mem_nil member).elim, fun _ _ => rfl⟩
  | cons report reports ih =>
      obtain ⟨here, later⟩ := List.forall_mem_cons.1 present
      rw [List.map_cons, List.nodup_cons] at distinct
      obtain ⟨fresh, distinct⟩ := distinct
      obtain ⟨written, declared, statuses⟩ := run_writeReport here
      have nothing : failures.pushAll (none : Option Failure).toList = failures := rfl
      rw [writeAll, Program.run_bind, written, nothing]
      generalize ((writeReport report).run MemoryStore.handle store).2 = next at declared statuses ⊢
      have still : ∀ other ∈ reports, (next.status? other.object).isSome := by
        intro other member
        rw [statuses]
        split
        · rfl
        · exact later other member
      obtain ⟨same, declaredAfter, reported, others⟩ := ih distinct still failures
      refine ⟨same, declaredAfter.trans declared, List.forall_mem_cons.2 ⟨?_, reported⟩, ?_⟩
      · rw [others _ fresh, statuses, if_pos rfl]
      · intro other absent
        rw [List.map_cons, List.mem_cons, not_or] at absent
        rw [others _ absent.2, statuses, if_neg absent.1]

theorem run_writeReports (reports : List Report) (store : MemoryStore) :
    (writeReports reports).run MemoryStore.handle store =
      (((writeAll {} reports).run MemoryStore.handle store).1.toResult,
        ((writeAll {} reports).run MemoryStore.handle store).2) := by
  rw [writeReports, Program.run_bind, Program.run_done]

end Reporter

end GatewayControl
