import GatewayControl.Gateway
import GatewayControl.Proofs.Answers
import GatewayControl.Proofs.Files
import GatewayControl.Proofs.Versions

/-!
Any number of clients and one store, in memory or in files. However their calls are interleaved, no
write is lost as long as the versions have not run out: an update that succeeds replaces the state
that its client was given last.
-/

namespace GatewayControl

namespace Gateway

def contents (gateway : Gateway) : Contents :=
  match gateway.backend with
  | .memory store => store.contents
  | .files store => store.contents gateway.disk

theorem versioned : Versioned handleStore contents := by
  have each : ∀ call (gateway : Gateway),
      gateway.contents.Answers call (handleStore call gateway).1 (handleStore call gateway).2.contents ∧
        ∀ fault, (handleStore call gateway).1 = .error fault → (handleStore call gateway).2 = gateway := by
    intro call gateway
    obtain ⟨backend, proxy, operator, disk, table, metrics, reports⟩ := gateway
    cases backend with
    | memory store =>
        refine ⟨MemoryStore.versioned.answers call store, fun fault reply => ?_⟩
        simp only [handleStore, MemoryStore.versioned.failed call store fault reply]
    | files store =>
        refine ⟨store.versioned.answers call disk, fun fault reply => ?_⟩
        have kept : ((store.answer call).run Disk.handle disk).2 = disk :=
          store.versioned.failed call disk fault reply
        simp only [handleStore, onDisk, kept]
  exact ⟨fun call gateway => (each call gateway).1, fun call gateway => (each call gateway).2⟩

end Gateway

structure Lossless {κ σ : Type} [DecidableEq κ] (contents : σ → Contents) (start : σ)
    (steps : List (κ × Step StoreCall.Reply σ)) (final : σ) : Prop where
  given_stored : ∀ client step, (client, step) ∈ steps → ∀ item ∈ step.call.given step.reply,
    contents step.after item.ref = some item
  /-- If the version of an update is one that its client was given of the object, the update replaces
  the state that the client was given last. -/
  update_replaces : ∀ earlier client step later asked, steps = earlier ++ (client, step) :: later →
    step.call.updates? step.reply = some asked →
    (∃ given ∈ givenTo client asked.ref earlier, given.version = asked.version) →
    (givenTo client asked.ref earlier).getLast? = contents step.before asked.ref ∧
      contents step.after = (contents step.before).put (asked.withVersion (asked.version + 1))
  creation_adds : ∀ client step asked, (client, step) ∈ steps →
    step.call.creates? step.reply = some asked →
    contents step.before asked.ref = none ∧
      contents step.after = (contents step.before).put (asked.withVersion 1)
  others_keep : ∀ client step, (client, step) ∈ steps → step.call.updates? step.reply = none →
    step.call.creates? step.reply = none → contents step.after = contents step.before
  updates_ascend : (updatesIn steps).Pairwise fun first second =>
    first.ref = second.ref → first.version < second.version
  version_counts : ∀ ref item, contents final ref = some item →
    item.version = ((contents start ref).map StoredItem.version).getD 1 +
      ((updatesIn steps).filter fun asked => asked.ref = ref).length
  creates_once : ((createsIn steps).map StoredItem.ref).Nodup
  failure_keeps : ∀ client step fault, (client, step) ∈ steps → step.reply = .error fault →
    step.after = step.before

section

variable {κ σ : Type} [DecidableEq κ] {handler : StoreHandler σ} {contents : σ → Contents}

theorem Versioned.lossless (versioned : Versioned handler contents) (calls : List (κ × StoreCall))
    {state : σ} (bounded : Bounded (updatesIn (history handler calls state))) :
    Lossless contents state (history handler calls state) (stateAfter handler calls state) := by
  have handled : ∀ client step, (client, step) ∈ history handler calls state →
      handler step.call step.before = (step.reply, step.after) := by
    intro client step member
    obtain ⟨earlier, later, split⟩ := List.append_of_mem member
    obtain ⟨-, -, -, -, handled, -⟩ := history_eq_append split
    exact handled
  constructor
  · intro client step member item given
    exact (versioned.answers_step (handled client step member)).given given
  · intro earlier client step later asked split updated seen
    obtain ⟨first, -, before, reached, own, -⟩ := history_eq_append split
    obtain ⟨current, found, same, put⟩ := (versioned.answers_step own).of_updates updated
    obtain ⟨given, member, version⟩ := seen
    rw [split, updatesIn_append] at bounded
    obtain ⟨boundedBefore, boundedAfter⟩ := List.forall_mem_append.1 bounded
    have known := versioned.known client asked.ref first (before ▸ boundedBefore)
    rw [← before, ← reached] at known
    have small : asked.version + 1 < UInt64.size :=
      boundedAfter asked (List.mem_filterMap.2 ⟨_, List.mem_cons_self, updated⟩)
    rw [nextVersion_of_lt small] at put
    exact ⟨(known.getLast?_eq found member (version.trans same)).trans found.symm, put⟩
  · intro client step asked member created
    exact (versioned.answers_step (handled client step member)).of_creates created
  · intro client step member noUpdate noCreation
    have answers := versioned.answers_step (handled client step member)
    generalize contents step.after = after at answers ⊢
    cases answers with
    | kept => rfl
    | updated updates => cases noUpdate.symm.trans updates
    | created _ creates => cases noCreation.symm.trans creates
  · exact versioned.updates_ascend calls bounded
  · intro ref item found
    exact versioned.version_eq calls bounded found
  · exact (versioned.creates_absent calls state).1
  · intro client step fault member failed
    have own := handled client step member
    have kept := versioned.failed step.call step.before fault (by rw [own, failed])
    rw [own] at kept
    exact kept

end

/-- However the calls of clients on a gateway's store are interleaved, no write is lost. -/
theorem Gateway.interleavings_lossless {κ : Type} [DecidableEq κ] (gateway : Gateway)
    (calls : List (κ × StoreCall))
    (bounded : Bounded (updatesIn (history handleStore calls gateway))) :
    Lossless contents gateway (history handleStore calls gateway)
      (stateAfter handleStore calls gateway) :=
  versioned.lossless calls bounded

def contendedGateway : Gateway where
  backend := .memory (({} : MemoryStore).putSchema { name := "orders", source := "" })
  proxy := ⟨{ scheme := "http", host := some (.domain "proxy"), path := .segments [""] }⟩
  operator := { virtualService := "gateway", role := "proxy", path := ["routes.toml"] }

/-- Two clients get a schema and both update it. The second has to get it once more. -/
def contendingCalls : List (String × StoreCall) :=
  let asked (source : String) (version : Nat) : StoreCall :=
    .updateSchema { name := "orders", source, version }
  [("alice", .getSchema "orders"), ("bob", .getSchema "orders"),
    ("alice", asked "type Query { total: Int }" 1), ("bob", asked "type Query { count: Int }" 1),
    ("bob", .getSchema "orders"), ("bob", asked "type Query { total: Int count: Int }" 2)]

theorem contending_updates_ascend :
    let steps := history Gateway.handleStore contendingCalls contendedGateway
    (updatesIn steps).map StoredItem.version = [1, 2] ∧ Bounded (updatesIn steps) ∧
      Lossless Gateway.contents contendedGateway steps
        (stateAfter Gateway.handleStore contendingCalls contendedGateway) := by
  intro steps
  have versions : (updatesIn steps).map StoredItem.version = [1, 2] := by decide +kernel
  have bounded : Bounded (updatesIn steps) := by decide +kernel
  exact ⟨versions, bounded, Gateway.interleavings_lossless contendedGateway contendingCalls bounded⟩

end GatewayControl
