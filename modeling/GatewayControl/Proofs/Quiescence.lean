import GatewayControl.Proofs.Deployment
import GatewayControl.Proofs.Interleaving
import GatewayControl.Proofs.Settled

/-!
Deployments at rest. No version comes back before all versions have been used up, so a store that is
as a snapshot shows it has not changed since the snapshot was read. A pass over the snapshot then ran
on that very store from its first call to its last and left it as it is, and such a store is settled.
-/

namespace GatewayControl

/-- Whether an item is what is stored under its reference, or was so before a number of updates. -/
def Contents.ReachedWithin (contents : Contents) (updates : Nat) (item : StoredItem) : Prop :=
  ∃ current, contents item.ref = some current ∧
    (current = item ∨ ∃ count < updates, current.version = nextVersion^[count + 1] item.version)

section

variable {contents after : Contents} {updates : Nat} {item : StoredItem}

theorem Contents.ReachedWithin.step {call : StoreCall} {reply : call.Reply}
    (reached : contents.ReachedWithin updates item)
    (answers : contents.Answers call reply after) : after.ReachedWithin (updates + 1) item := by
  obtain ⟨current, found, old⟩ := reached
  obtain ⟨later, kept, rfl | ⟨next, -⟩⟩ := answers.keeps found
  · refine ⟨later, kept, old.imp_right ?_⟩
    rintro ⟨count, less, version⟩
    exact ⟨count, Nat.lt_succ_of_lt less, version⟩
  · refine ⟨later, kept, .inr ?_⟩
    rcases old with rfl | ⟨count, less, version⟩
    · exact ⟨0, Nat.succ_pos _, next⟩
    · refine ⟨count + 1, Nat.succ_lt_succ less, ?_⟩
      rw [next, version, Function.iterate_succ_apply' nextVersion (count + 1)]

theorem Contents.ReachedWithin.mono (reached : contents.ReachedWithin updates item) {more : Nat}
    (atMost : updates ≤ more) : contents.ReachedWithin more item := by
  obtain ⟨current, found, old⟩ := reached
  refine ⟨current, found, old.imp_right ?_⟩
  rintro ⟨count, less, version⟩
  exact ⟨count, Nat.lt_of_lt_of_le less atMost, version⟩

theorem Contents.not_reachedWithin {current : StoredItem} (found : contents item.ref = some current)
    (next : item.version = nextVersion current.version) (few : updates + 1 < UInt64.size) :
    ¬contents.ReachedWithin updates item := by
  rintro ⟨stored, present, rfl | ⟨count, less, version⟩⟩
  · cases found.symm.trans present
    exact @iterate_nextVersion_ne 0 (by decide) _ next.symm
  · cases found.symm.trans present
    rw [next, ← Function.iterate_succ_apply] at version
    exact iterate_nextVersion_ne (by omega) _ version.symm

end

def Snapshot.items (snapshot : Snapshot) : List StoredItem :=
  snapshot.schemas.map .schema ++ snapshot.maps.map .resolverMap

def MemoryStore.HasShown (store : MemoryStore) (updates : Nat) (snapshot : Snapshot) : Prop :=
  ∀ item ∈ snapshot.items, store.contents.ReachedWithin updates item

namespace MemoryStore

variable {store after : MemoryStore} {updates : Nat} {snapshot : Snapshot}

theorem HasShown.step (shown : store.HasShown updates snapshot) (call : StoreCall) :
    (handle call store).2.HasShown (updates + 1) snapshot :=
  fun item member => (shown item member).step (versioned.answers call store)

theorem HasShown.mono (shown : store.HasShown updates snapshot) {more : Nat}
    (atMost : updates ≤ more) : store.HasShown more snapshot :=
  fun item member => (shown item member).mono atMost

theorem mem_items {item : StoredItem} :
    item ∈ store.snapshot.items ↔ store.contents item.ref = some item := by
  cases item with
  | schema schema =>
      simp [Snapshot.items, mem_schemas_snapshot, contents, StoredItem.ref]
  | resolverMap map =>
      simp [Snapshot.items, snapshot, Catalog.mem_values, StoredObject.name, contents, StoredItem.ref]

/-- A call that leads to what has been shown before changes nothing, as a change makes a version
that is not reached. -/
theorem Answers.eq_of_hasShown {call : StoreCall} {reply : call.Reply}
    (answers : Answers call store reply after) (shown : store.HasShown updates after.snapshot)
    (few : updates + 1 < UInt64.size) : after = store := by
  rcases answers.cases with same | ⟨asked, current, found, -, rfl⟩ | ⟨asked, absent, rfl⟩
  · exact same
  · have reached := shown _ (mem_items.2 (contents_put_self store _))
    refine absurd reached (Contents.not_reachedWithin ?_ (StoredItem.version_withVersion ..) few)
    rwa [StoredItem.ref_withVersion]
  · obtain ⟨current, present, -⟩ := shown _ (mem_items.2 (contents_put_self store _))
    rw [StoredItem.ref_withVersion, absent] at present
    cases present

theorem handle_eq_of_hasShown {call : StoreCall} (shown : store.HasShown updates snapshot)
    (few : updates + 1 < UInt64.size) (leads : (handle call store).2.snapshot = snapshot) :
    (handle call store).2 = store :=
  (handle_answers call store).eq_of_hasShown (leads ▸ shown) few

end MemoryStore

/-- What an observation that is being made may be, if it has seen only what a store has shown. -/
inductive Observing (store : MemoryStore) (updates : Nat) :
    StoreProgram (Except StorageFault Snapshot) → Prop
  | begun : Observing store updates readSnapshot
  | listed {schemas : List Schema} :
      (∀ schema ∈ schemas, store.contents.ReachedWithin updates (.schema schema)) →
      Observing store updates (readMaps schemas)
  | failed (fault : StorageFault) : Observing store updates (.done (.error fault))
  | observed {snapshot : Snapshot} : store.HasShown updates snapshot →
      Observing store updates (.done (.ok snapshot))

namespace Observing

variable {store : MemoryStore} {updates : Nat}
  {program : StoreProgram (Except StorageFault Snapshot)}

theorem step (observing : Observing store updates program) (call : StoreCall) :
    Observing (MemoryStore.handle call store).2 (updates + 1) program := by
  cases observing with
  | begun => exact .begun
  | listed reached =>
      exact .listed fun schema member => (reached schema member).step (MemoryStore.versioned.answers _ _)
  | failed fault => exact .failed fault
  | observed shown => exact .observed (shown.step call)

theorem mono (observing : Observing store updates program) {more : Nat}
    (atMost : updates ≤ more) : Observing store more program := by
  cases observing with
  | begun => exact .begun
  | listed reached => exact .listed fun schema member => (reached schema member).mono atMost
  | failed fault => exact .failed fault
  | observed shown => exact .observed (shown.mono atMost)

theorem read {request : StoreCall}
    {next : request.Reply → StoreProgram (Except StorageFault Snapshot)}
    (observing : Observing store updates (.call request next)) :
    Observing (MemoryStore.handle request store).2 updates
      (next (MemoryStore.handle request store).1) := by
  cases observing with
  | begun =>
      refine .listed fun schema member => ?_
      exact ⟨_, MemoryStore.contents_schema (Catalog.mem_values.1 member), .inl rfl⟩
  | listed reached =>
      refine .observed fun item member => ?_
      rcases List.mem_append.1 member with belongs | belongs
      · obtain ⟨schema, listed, rfl⟩ := List.mem_map.1 belongs
        exact reached schema listed
      · obtain ⟨map, listed, rfl⟩ := List.mem_map.1 belongs
        exact ⟨_, MemoryStore.contents_map (Catalog.mem_values.1 listed), .inl rfl⟩

theorem failRead {request : StoreCall}
    {next : request.Reply → StoreProgram (Except StorageFault Snapshot)}
    (observing : Observing store updates (.call request next)) (fault : StorageFault) :
    Observing store updates (next (.error fault)) := by
  cases observing with
  | begun => exact .failed fault
  | listed => exact .failed fault

end Observing

theorem Site.handle_faultless {ω : Type} (operator : OperatorHandler ω) (call : WorldCall)
    {site : Site ω} (faultless : site.faults = []) :
    (Site.handle operator call site).2.faults = [] ∧
      ((Site.handle operator call site).2.store = site.store ∨
        ∃ request, (Site.handle operator call site).2.store =
          (MemoryStore.handle request site.store).2) := by
  cases call with
  | operator call => exact ⟨faultless, .inl rfl⟩
  | serve endpoints => exact ⟨faultless, .inl rfl⟩
  | store call =>
      have handled := Site.handleStore_eq_of_faultless call faultless
      exact ⟨Site.handleStore_faultless call faultless, .inr ⟨call, congrArg (·.2.store) handled⟩⟩

structure HasShownAll (store : MemoryStore) (updates : Nat) (delivered : List Snapshot)
    (sending : Option Delivery) (reading : Option (StoreProgram (Except StorageFault Snapshot))) :
    Prop where
  delivered : ∀ snapshot ∈ delivered, store.HasShown updates snapshot
  sending : ∀ snapshot, sending = some (.snapshot snapshot) → store.HasShown updates snapshot
  reading : ∀ program, reading = some program → Observing store updates program

theorem HasShownAll.step {store : MemoryStore} {updates : Nat} {delivered : List Snapshot}
    {sending : Option Delivery} {reading : Option (StoreProgram (Except StorageFault Snapshot))}
    (shown : HasShownAll store updates delivered sending reading) (call : StoreCall) :
    HasShownAll (MemoryStore.handle call store).2 (updates + 1) delivered sending reading where
  delivered snapshot member := (shown.delivered snapshot member).step call
  sending snapshot sent := (shown.sending snapshot sent).step call
  reading program left := (shown.reading program left).step call

theorem HasShownAll.mono {store : MemoryStore} {updates more : Nat} {delivered : List Snapshot}
    {sending : Option Delivery} {reading : Option (StoreProgram (Except StorageFault Snapshot))}
    (shown : HasShownAll store updates delivered sending reading) (atMost : updates ≤ more) :
    HasShownAll store more delivered sending reading where
  delivered snapshot member := (shown.delivered snapshot member).mono atMost
  sending snapshot sent := (shown.sending snapshot sent).mono atMost
  reading program left := (shown.reading program left).mono atMost

namespace Deployment

variable {ω : Type} {operator : OperatorHandler ω} {proxy : Proxy} {updates : Nat}
  {deployment after : Deployment ω}

/-- Where the running pass would end if nothing else happened before. -/
def passEnd (operator : OperatorHandler ω) (deployment : Deployment ω) : Site ω :=
  match deployment.loop.running with
  | none => deployment.loop.world
  | some program => (program.run (Site.handle operator) deployment.loop.world).2

/-- What holds between any two events of a deployment, after at most so many updates. -/
structure Coherent (operator : OperatorHandler ω) (proxy : Proxy) (updates : Nat)
    (deployment : Deployment ω) : Prop where
  faultless : deployment.loop.world.faults = []
  ordered : deployment.delivered = deployment.passes ++ deployment.loop.snapshots
  shown : HasShownAll deployment.store updates deployment.delivered deployment.sending
    deployment.reading
  /-- If nothing has disturbed the last pass and the store is as its snapshot shows it, the pass has
  run on this store all the time. -/
  last : ∀ snapshot, deployment.passes.getLast? = some snapshot → deployment.disturbed = false →
    deployment.store.snapshot = snapshot →
      ∃ site : Site ω, site.faults = [] ∧ site.store = deployment.store ∧
        site.pass operator proxy snapshot = deployment.passEnd operator

namespace Coherent

theorem start (capacity : Nat) (store : MemoryStore) (state : ω) :
    (Deployment.start capacity store state).Coherent operator proxy 0 where
  faultless := rfl
  ordered := rfl
  shown := by
    refine ⟨fun _ member => ?_, fun _ sent => ?_, fun _ left => ?_⟩
    · exact (List.not_mem_nil member).elim
    · cases sent
    · cases left
  last _ begun := by cases begun

theorem mono (coherent : deployment.Coherent operator proxy updates) {more : Nat}
    (atMost : updates ≤ more) : deployment.Coherent operator proxy more :=
  ⟨coherent.faultless, coherent.ordered, coherent.shown.mono atMost, coherent.last⟩

theorem store_eq (coherent : deployment.Coherent operator proxy updates)
    (few : updates + 1 < UInt64.size) {snapshot : Snapshot}
    (begun : deployment.passes.getLast? = some snapshot) {call : StoreCall}
    (leads : (MemoryStore.handle call deployment.store).2.snapshot = snapshot) :
    (MemoryStore.handle call deployment.store).2 = deployment.store := by
  refine MemoryStore.handle_eq_of_hasShown (coherent.shown.delivered snapshot ?_) few leads
  rw [coherent.ordered]
  exact List.mem_append_left _ (List.mem_of_getLast? begun)

theorem request (coherent : deployment.Coherent operator proxy updates)
    (few : updates + 1 < UInt64.size) (call : StoreCall) :
    (deployment.request call).Coherent operator proxy (updates + 1) where
  faultless := coherent.faultless
  ordered := coherent.ordered
  shown := coherent.shown.step call
  last snapshot begun undisturbed leads := by
    -- a call that led to the last snapshot can have changed nothing
    have same : deployment.request call = deployment := by
      rw [Deployment.request, coherent.store_eq few begun leads]
      rfl
    rw [same] at leads ⊢
    exact coherent.last snapshot begun undisturbed leads

theorem poll (coherent : deployment.Coherent operator proxy updates) (poller : Poller)
    (reading : Option (StoreProgram (Except StorageFault Snapshot))) (sending : Option Delivery)
    (left : ∀ program, reading = some program → Observing deployment.store updates program)
    (sent : ∀ snapshot, sending = some (.snapshot snapshot) → deployment.store.HasShown updates snapshot) :
    { deployment with poller, reading, sending }.Coherent operator proxy updates :=
  ⟨coherent.faultless, coherent.ordered, ⟨coherent.shown.delivered, sent, left⟩, coherent.last⟩

theorem observe (coherent : deployment.Coherent operator proxy updates)
    {observation : Except StorageFault Snapshot}
    (reading : deployment.reading = some (.done observation)) :
    { deployment with
      reading := none
      sending := (deployment.poller.observe observation).1
      poller := (deployment.poller.observe observation).2 }.Coherent operator proxy updates := by
  refine coherent.poll _ none _ (by simp) fun snapshot sent => ?_
  rcases (deployment.poller.observe_cases observation).2 with ⟨_, rfl, same, -⟩ | ⟨unsent, -⟩
  · cases same.symm.trans sent
    cases coherent.shown.reading _ reading with
    | observed shown => exact shown
  · exact absurd sent (unsent snapshot)

theorem snapshotArrives (coherent : deployment.Coherent operator proxy updates) {snapshot : Snapshot}
    (sent : deployment.sending = some (.snapshot snapshot)) :
    { deployment with
      loop.snapshots := deployment.loop.snapshots ++ [snapshot]
      sending := none
      delivered := deployment.delivered ++ [snapshot] }.Coherent operator proxy updates := by
  refine ⟨coherent.faultless, ?_, ⟨?_, by simp, coherent.shown.reading⟩, coherent.last⟩
  · simp only [coherent.ordered, List.append_assoc]
  · intro other member
    rcases List.mem_append.1 member with before | now
    · exact coherent.shown.delivered other before
    · rw [List.mem_singleton.1 now]
      exact coherent.shown.sending snapshot sent

theorem takeSnapshot (coherent : deployment.Coherent operator proxy updates) {snapshot : Snapshot}
    {snapshots : List Snapshot} (waiting : deployment.loop.snapshots = snapshot :: snapshots) :
    { deployment with
      loop.snapshots := snapshots
      loop.running := some (passCalls proxy snapshot)
      passes := deployment.passes ++ [snapshot]
      disturbed := false }.Coherent operator proxy updates := by
  refine ⟨coherent.faultless, ?_, coherent.shown, fun last begun _ _ => ?_⟩
  · simp [coherent.ordered, waiting]
  · -- the pass has all its calls still to make, and makes them from the present world on
    simp only [List.getLast?_concat, Option.some.injEq] at begun
    subst begun
    exact ⟨deployment.loop.world, coherent.faultless, rfl, rfl⟩

theorem call (coherent : deployment.Coherent operator proxy updates)
    (few : updates + 1 < UInt64.size) {request : WorldCall}
    {next : request.Reply → WorldProgram (Except Failure Unit)}
    (running : deployment.loop.running = some (.call request next)) :
    { deployment with
      loop.world := (Site.handle operator request deployment.loop.world).2
      loop.running :=
        some (next (Site.handle operator request deployment.loop.world).1) }.Coherent operator proxy
          (updates + 1) := by
  obtain ⟨faultless, called⟩ := Site.handle_faultless operator request coherent.faultless
  refine ⟨faultless, coherent.ordered, ?_, fun snapshot begun undisturbed leads => ?_⟩
  · rw [store]
    rcases called with same | ⟨call, same⟩
    · rw [same]
      exact coherent.shown.mono (Nat.le_succ _)
    · rw [same]
      exact coherent.shown.step call
  · -- if the store is now as the snapshot shows it, then the call has left it alone
    have same : (Site.handle operator request deployment.loop.world).2.store = deployment.store := by
      rcases called with same | ⟨call, same⟩
      · exact same
      · exact same.trans (coherent.store_eq few begun (same ▸ leads))
    obtain ⟨site, faultless, own, ends⟩ := coherent.last snapshot begun undisturbed (same ▸ leads)
    refine ⟨site, faultless, own.trans same.symm, ends.trans ?_⟩
    simp only [passEnd, running, Program.run_call]

theorem endPass (coherent : deployment.Coherent operator proxy updates) {result : Except Failure Unit}
    (running : deployment.loop.running = some (.done result)) :
    { deployment with loop := deployment.loop.endPass result }.Coherent operator proxy updates := by
  have ends : deployment.passEnd operator = deployment.loop.world := by
    rw [passEnd, running]
    rfl
  have last := coherent.last
  rw [ends] at last
  cases result with
  | ok => exact ⟨coherent.faultless, coherent.ordered, coherent.shown, last⟩
  | error => exact ⟨coherent.faultless, coherent.ordered, coherent.shown, last⟩

theorem aside (coherent : deployment.Coherent operator proxy updates)
    {loop : EventLoop (Site ω) (WorldProgram (Except Failure Unit))}
    (same : deployment.loop.SamePasses loop) :
    { deployment with loop }.Coherent operator proxy updates := by
  obtain ⟨world, snapshots, running⟩ := same
  cases loop
  cases world
  cases snapshots
  cases running
  exact ⟨coherent.faultless, coherent.ordered, coherent.shown, coherent.last⟩

theorem step (coherent : deployment.Coherent operator proxy updates)
    (few : updates + 1 < UInt64.size) (steps : deployment.Steps operator proxy after) :
    after.Coherent operator proxy (updates + 1) := by
  have later : deployment.Coherent operator proxy (updates + 1) := coherent.mono (Nat.le_succ _)
  obtain ⟨-, sending, reading⟩ := later.shown
  cases steps with
  | request call => exact coherent.request few call
  | tick =>
      refine later.poll _ _ _ (fun program left => ?_) sending
      cases left
      exact .begun
  | @read request next read =>
      have called := coherent.request few request
      refine called.poll _ _ _ (fun program left => ?_) called.shown.sending
      cases left
      exact ((coherent.shown.reading _ read).read).mono (Nat.le_succ _)
  | failRead fault read =>
      refine later.poll _ _ _ (fun program left => ?_) sending
      cases left
      exact (reading _ read).failRead fault
  | observe read => exact later.observe read
  | refuse => exact later.poll _ _ none reading (by simp)
  | stopPolling => exact later.poll _ _ _ reading sending
  | snapshotArrives sent => exact later.snapshotArrives sent
  | faultArrives _ same => exact (later.poll _ _ none reading (by simp)).aside same
  | takeSnapshot waiting => exact later.takeSnapshot waiting
  | call running => exact coherent.call few running
  | failCall => exact ⟨later.faultless, later.ordered, later.shown, by simp⟩
  | endPass running => exact later.endPass running
  | aside same => exact later.aside same
  | stop same => exact (later.poll deployment.poller.cutOff _ _ reading sending).aside same

end Coherent

/-- Whether nothing is left to do: no pass is running, no snapshot waits for one, nothing disturbed
the last pass, and the last snapshot that was delivered is what is stored. -/
structure Quiescent (deployment : Deployment ω) : Prop where
  idle : deployment.loop.running = none
  drained : deployment.loop.snapshots = []
  undisturbed : deployment.disturbed = false
  current : deployment.delivered.getLast? = some deployment.store.snapshot

theorem Coherent.passed (coherent : deployment.Coherent operator proxy updates)
    (quiescent : deployment.Quiescent) :
    ∃ site : Site ω, site.faults = [] ∧ site.store = deployment.store ∧
      site.pass operator proxy site.store.snapshot = deployment.loop.world := by
  have begun := quiescent.current
  rw [coherent.ordered, quiescent.drained, List.append_nil] at begun
  obtain ⟨site, faultless, own, ends⟩ := coherent.last _ begun quiescent.undisturbed rfl
  rw [passEnd, quiescent.idle] at ends
  exact ⟨site, faultless, own, own ▸ ends⟩

end Deployment

/-- Whether a site serves what its store says and has reported on all of it, so that a pass over the
store would only read. -/
structure Site.Reconciled {ω : Type} (operator : OperatorHandler ω) (proxy : Proxy) (site : Site ω) :
    Prop where
  served : site.table = .ofEndpoints (site.derived operator proxy site.store.snapshot).1.endpoints
  reported : ∀ report ∈ (site.derived operator proxy site.store.snapshot).1.reports,
    site.store.status? report.object = some report.status
  schemas : ∀ schema ∈ site.store.snapshot.schemas,
    ∃ report ∈ (site.derived operator proxy site.store.snapshot).1.reports,
      report.object = ⟨.schema, schema.name⟩
  failingMaps : ∀ schema ∈ site.store.snapshot.schemas,
    ∀ fault, buildFault? proxy site.store.snapshot schema = some fault →
      ∃ report ∈ (site.derived operator proxy site.store.snapshot).1.reports,
        report.object = ⟨.resolverMap, schema.resolverMap⟩
  reads : ∀ step ∈ (passCalls proxy site.store.snapshot).steps (Site.handle operator) site,
    step.call.writes = false

theorem Settled.reconciled {ω : Type} {operator : OperatorHandler ω} {proxy : Proxy} {site : Site ω}
    (settled : Settled proxy site.store) (faultless : site.faults = [])
    (table : site.table = .ofEndpoints
      (site.store.snapshot.schemas.filterMap (endpointOf? proxy site.store.snapshot))) :
    site.Reconciled operator proxy := by
  have reports : (site.derived operator proxy site.store.snapshot).1.reports =
      reportsOf proxy site.store.snapshot := reports_deriveEndpoints settled.complete site
  constructor
  · rw [Site.endpoints_derived]
    exact table
  · rw [reports]
    exact settled.reported
  · intro schema stored
    rw [reports]
    exact ⟨_, List.mem_append_left _ (List.mem_map_of_mem stored), rfl⟩
  · intro schema stored fault failed
    have failing := mem_failingMaps.2 ⟨schema, stored, fault, failed, rfl⟩
    rw [reports]
    exact ⟨_, List.mem_append_right _ (List.mem_map_of_mem failing), rfl⟩
  · exact Site.pass_reads faultless settled

namespace Deployment

/-- Whatever clients, the poller and the loop have done in whatever order, and whichever of their
calls have failed: a deployment that has come to rest before the versions of an object can have been
used up serves what its store says and has reported on all of it, and nothing is left to write. -/
theorem quiescent_reconciled {ω : Type} (operator : OperatorHandler ω) (proxy : Proxy)
    (capacity : Nat) (store : MemoryStore) (state : ω) (events : List DeploymentEvent)
    (deployment : Deployment ω)
    (ran : (start capacity store state).run? operator proxy events = some deployment)
    (few : events.length < UInt64.size) (quiescent : deployment.Quiescent) :
    deployment.loop.world.Reconciled operator proxy := by
  have coherent : deployment.Coherent operator proxy (0 + events.length) := by
    refine run?_keeps (fun updates deployment => updates < UInt64.size →
      deployment.Coherent operator proxy updates) ?_ ran 0 (fun _ => .start capacity store state)
      (by rwa [Nat.zero_add])
    intro updates before after steps coherent more
    exact (coherent (Nat.lt_of_succ_lt more)).step more steps
  obtain ⟨site, faultless, own, ends⟩ := coherent.passed quiescent
  have settled : Settled proxy site.store :=
    Site.settled_of_unchanged faultless ((congrArg Site.store ends).trans own.symm)
  have table := Site.table_pass operator proxy site.store.snapshot site
  rw [ends, own] at table
  rw [own] at settled
  exact Settled.reconciled settled coherent.faultless table

end Deployment

/-- A schema whose resolver map does not resolve its field, before and after both are reported on. -/
def unresolvedOrders : Snapshot where
  schemas := [
    { name := "orders"
      resolverMap := "totals"
      source := "type Query { total: Int }"
      version := 1 }]
  maps := [{ name := "totals", types := ∅, version := 1 }]

def reportedOrders : Snapshot where
  schemas := [
    { name := "orders"
      resolverMap := "totals"
      source := "type Query { total: Int }"
      version := 2
      status := .accepted }]
  maps := [
    { name := "totals"
      types := ∅
      version := 2
      status :=
        .rejected "failed to generate resolvers from map: no resolver for field Query.total" }]

/-- The map is created between the two lists of the first observation, the second observation is made
while the first pass runs, and the third one shows what that pass has written. -/
def tornEvents : List DeploymentEvent :=
  [.tick, .read, .client (.createMap { name := "totals", types := ∅ }), .read, .observe,
    .loop (.snapshotArrives unresolvedOrders), .loop .takeSnapshot, .loop .advance, .loop .advance,
    .tick, .read, .loop .advance, .read, .observe] ++
  List.replicate 4 (.loop .advance) ++
  [.tick, .read, .read, .observe, .loop (.snapshotArrives reportedOrders), .loop .takeSnapshot] ++
  List.replicate 5 (.loop .advance)

theorem orders_reconciled_after_torn_observation :
    let store := ({} : MemoryStore).putSchema
      { name := "orders", resolverMap := "totals", source := "type Query { total: Int }" }
    ∃ deployment, (Deployment.start 4 store ()).run? idleOperator halfwayProxy tornEvents =
      some deployment ∧ tornEvents.length < UInt64.size ∧ deployment.Quiescent ∧
      deployment.store.snapshot = reportedOrders ∧
      deployment.loop.world.Reconciled idleOperator halfwayProxy := by
  intro store
  have rests : ((Deployment.start 4 store ()).run? idleOperator halfwayProxy tornEvents).any
      (fun deployment => deployment.loop.running.isNone && deployment.loop.snapshots.isEmpty &&
        !deployment.disturbed && deployment.delivered.getLast? = some reportedOrders &&
        deployment.store.snapshot = reportedOrders) = true := by
    decide +kernel
  obtain ⟨deployment, ran, rests⟩ := Option.any_eq_true _ _ |>.1 rests
  simp only [Bool.and_eq_true, Option.isNone_iff_eq_none, List.isEmpty_iff, Bool.not_eq_true',
    decide_eq_true_eq] at rests
  obtain ⟨⟨⟨⟨idle, drained⟩, undisturbed⟩, last⟩, stored⟩ := rests
  have quiescent : deployment.Quiescent := ⟨idle, drained, undisturbed, stored ▸ last⟩
  have few : tornEvents.length < UInt64.size := by decide
  exact ⟨deployment, ran, few, quiescent, stored,
    Deployment.quiescent_reconciled idleOperator halfwayProxy 4 store () tornEvents deployment ran few
      quiescent⟩

end GatewayControl
