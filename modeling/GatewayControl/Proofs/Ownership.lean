import GatewayControl.Proofs.History
import GatewayControl.Proofs.Recovery
import GatewayControl.Proofs.Resolvers

/-!
What operators own is left alone by passes. A pass writes whole objects, but each of them is the
object that is stored at that moment with another reference or another status. So what a pass changes
of an object is told by its reports and by the updates that succeeded.
-/

namespace GatewayControl

/-- Whether an object still says what was submitted. A reference may have been generated. -/
inductive StoredItem.Keeps : StoredItem → StoredItem → Prop
  | schema {first last : Schema} : last.name = first.name → last.source = first.source →
      (last.resolverMap = first.resolverMap ∨
        first.resolverMap = "" ∧ last.resolverMap = generatedMapName first.name) →
      Keeps (.schema first) (.schema last)
  | resolverMap {first last : ResolverMap} : last.name = first.name → last.types = first.types →
      Keeps (.resolverMap first) (.resolverMap last)

/-- How a pass with the given reports may leave an object that it updated a number of times. -/
structure StoredItem.Tended (reports : List Report) (updates : Nat) (first last : StoredItem) :
    Prop where
  submitted : first.Keeps last
  status : last.status = first.status ∨
    ∃ report ∈ reports, report.object = first.ref ∧ last.status = report.status
  version : last.version = nextVersion^[updates] first.version

namespace StoredItem

variable {reports : List Report} {count more : Nat} {first middle last : StoredItem}

theorem Keeps.refl (item : StoredItem) : item.Keeps item := by
  cases item with
  | schema => exact .schema rfl rfl (.inl rfl)
  | resolverMap => exact .resolverMap rfl rfl

theorem Keeps.ref (keeps : first.Keeps last) : last.ref = first.ref := by
  cases keeps with
  | schema named => exact congrArg (ObjectRef.mk .schema) named
  | resolverMap named => exact congrArg (ObjectRef.mk .resolverMap) named

theorem Keeps.trans (one : first.Keeps middle) (two : middle.Keeps last) : first.Keeps last := by
  cases one with
  | resolverMap named types =>
      cases two with
      | resolverMap namedLater typesLater =>
          exact .resolverMap (namedLater.trans named) (typesLater.trans types)
  | schema named source reference =>
      cases two with
      | schema namedLater sourceLater referenceLater =>
          refine .schema (namedLater.trans named) (sourceLater.trans source) ?_
          rcases referenceLater with same | ⟨empty, generated⟩
          · rw [same]
            exact reference
          · rcases reference with same | ⟨-, other⟩
            · exact .inr ⟨same ▸ empty, named ▸ generated⟩
            · exact absurd (other.symm.trans empty) (generatedMapName_ne_empty _)

theorem Tended.refl (item : StoredItem) : item.Tended reports 0 item :=
  ⟨.refl item, .inl rfl, rfl⟩

theorem Tended.trans (one : first.Tended reports count middle) (two : middle.Tended reports more last) :
    first.Tended reports (count + more) last := by
  constructor
  · exact one.submitted.trans two.submitted
  · rcases two.status with same | ⟨report, member, object, stated⟩
    · rw [same]
      exact one.status
    · exact .inr ⟨report, member, object.trans one.submitted.ref, stated⟩
  · rw [Nat.add_comm, Function.iterate_add_apply, ← one.version, two.version]

end StoredItem

/-! One call. -/

section

variable {snapshot : Snapshot} {reports : List Report} {store after : MemoryStore} {call : StoreCall}
  {reply : call.Reply} {ref : ObjectRef}

theorem Asked.tends (asks : Asked snapshot reports store call) {asked current : StoredItem}
    (updates : call.updates? reply = some asked) (found : store.contents asked.ref = some current) :
    current.Tended reports 1 (asked.withVersion (nextVersion current.version)) := by
  cases asks with
  | get object => cases (StoreCall.updates?_get reply).symm.trans updates
  | @refer schema stored member valid unnamed present unreferred =>
      have named : stored.name = schema.name := Catalog.name_of_get? present
      cases reply with
      | error fault => cases updates
      | ok updated =>
          cases updates
          have own := MemoryStore.contents_schema (Catalog.get?_own present)
          cases own.symm.trans found
          refine ⟨.schema rfl rfl (.inr ⟨unreferred, ?_⟩), .inl rfl, rfl⟩
          exact congrArg generatedMapName named.symm
  | create => cases reply <;> cases updates
  | @restate report item member present =>
      obtain rfl := StoreCall.updates?_update updates
      have own := MemoryStore.ref_of_contents present
      rw [StoredItem.ref_withStatus, own, present, Option.some.injEq] at found
      subst found
      refine ⟨?_, .inr ⟨report, member, own.symm, ?_⟩, ?_⟩
      · cases item with
        | schema => exact .schema rfl rfl (.inl rfl)
        | resolverMap => exact .resolverMap rfl rfl
      · rw [StoredItem.status_withVersion, StoredItem.status_withStatus]
      · exact StoredItem.version_withVersion _ _

theorem Asked.keeps (asks : Asked snapshot reports store call)
    (answers : store.Answers call reply after) {item : StoredItem}
    (found : store.contents ref = some item) :
    ∃ later, after.contents ref = some later ∧
      item.Tended reports (if call.updated? reply = some ref then 1 else 0) later := by
  rcases answers.contents.at_ref ref with ⟨other, same⟩ |
    ⟨asked, current, updates, updated, present, version, now⟩ | ⟨asked, -, -, -, absent, -⟩
  · rw [if_neg other, same]
    exact ⟨item, found, .refl item⟩
  · cases found.symm.trans present
    have own : asked.ref = ref := by simpa [StoreCall.updated?, updates] using updated
    rw [if_pos updated]
    exact ⟨_, version ▸ now, asks.tends updates (own ▸ found)⟩
  · cases absent.symm.trans found

def Snapshot.Grows (snapshot : Snapshot) (reports : List Report) (updates : Nat) (ref : ObjectRef)
    (item : StoredItem) : Prop :=
  ∃ schema ∈ snapshot.schemas, ∃ system, schema.resolverMap = "" ∧
    ref = ⟨.resolverMap, generatedMapName schema.name⟩ ∧
    GraphQL.TypeSystem.parse schema.source = .ok system ∧
    (StoredItem.resolverMap
      { skeleton (generatedMapName schema.name) system with version := 1 }).Tended reports updates item

theorem Asked.adds (asks : Asked snapshot reports store call)
    (answers : store.Answers call reply after) (absent : store.contents ref = none) :
    call.updated? reply ≠ some ref ∧
      ∀ item, after.contents ref = some item → snapshot.Grows reports 0 ref item := by
  rcases answers.contents.at_ref ref with ⟨other, same⟩ |
    ⟨asked, current, -, -, present, -, -⟩ | ⟨asked, creates, own, other, -, now⟩
  · refine ⟨other, fun item found => ?_⟩
    cases absent.symm.trans (same.symm.trans found)
  · cases absent.symm.trans present
  · refine ⟨other, fun item found => ?_⟩
    cases now.symm.trans found
    cases asks with
    | get object => cases (StoreCall.creates?_get reply).symm.trans creates
    | refer => cases reply <;> cases creates
    | restate => cases (StoreCall.creates?_update reply).symm.trans creates
    | @create schema stored system member valid unnamed parsed present refers =>
        cases reply with
        | error fault => cases creates
        | ok map =>
            cases creates
            exact ⟨schema, member, system, unnamed, own.symm, parsed, .refl _⟩

end

/-! A whole pass. -/

def Step.updates {σ : Type} (ref : ObjectRef) : Step WorldCall.Reply σ → Bool
  | ⟨_, .store call, reply, _⟩ => call.updated? reply = some ref
  | _ => false

namespace Site

variable {ω : Type} {operator : OperatorHandler ω} {proxy : Proxy} {snapshot : Snapshot} {site : Site ω}

def updates (operator : OperatorHandler ω) (proxy : Proxy) (snapshot : Snapshot) (site : Site ω)
    (ref : ObjectRef) : Nat :=
  ((passCalls proxy snapshot).steps (handle operator) site).countP (Step.updates ref)

/-- What holds of the store and a count of updates is kept by a pass if the calls that a pass may
make keep it. -/
theorem pass_counting (ref : ObjectRef) (holds : Nat → MemoryStore → Prop) (start : holds 0 site.store)
    (kept : ∀ count store call (reply : call.Reply) after,
      Asked snapshot (derived operator proxy snapshot site).1.reports store call →
      store.Answers call reply after → holds count store →
      holds (count + if call.updated? reply = some ref then 1 else 0) after) :
    holds (updates operator proxy snapshot site ref) (pass operator proxy snapshot site).store := by
  have each : ∀ step ∈ (passCalls proxy snapshot).steps (handle operator) site, ∀ count,
      holds count step.before.store →
      holds (count + if Step.updates ref step then 1 else 0) step.after.store := by
    intro step member count before
    rcases answers_of_pass member with
      ⟨earlier, call, reply, later, rfl, asked, answers⟩ | ⟨other, same⟩
    · have after := kept count _ call reply _ asked answers before
      simpa [Step.updates] using after
    · have uncounted : Step.updates ref step = false := by
        obtain ⟨earlier, call, reply, later⟩ := step
        cases call with
        | store call => exact absurd rfl (other call)
        | operator call => rfl
        | serve endpoints => rfl
      rw [uncounted, same]
      exact before
  exact Program.holds_counting (Step.updates ref)
    (fun count (point : Site ω) => holds count point.store) start each

theorem pass_tends {ref : ObjectRef} {item : StoredItem} (found : site.store.contents ref = some item) :
    ∃ later, (pass operator proxy snapshot site).store.contents ref = some later ∧
      item.Tended (derived operator proxy snapshot site).1.reports
        (updates operator proxy snapshot site ref) later := by
  refine pass_counting ref (fun count store => ∃ later,
    store.contents ref = some later ∧ item.Tended _ count later) ⟨item, found, .refl item⟩ ?_
  intro count store call reply after asked answers ⟨middle, present, tended⟩
  obtain ⟨later, kept, more⟩ := asked.keeps answers present
  exact ⟨later, kept, tended.trans more⟩

theorem pass_grows {ref : ObjectRef} (absent : site.store.contents ref = none) :
    ((pass operator proxy snapshot site).store.contents ref = none →
      updates operator proxy snapshot site ref = 0) ∧
    ∀ item, (pass operator proxy snapshot site).store.contents ref = some item →
      snapshot.Grows (derived operator proxy snapshot site).1.reports
        (updates operator proxy snapshot site ref) ref item := by
  refine pass_counting ref (fun count store =>
    (store.contents ref = none → count = 0) ∧
      ∀ item, store.contents ref = some item → snapshot.Grows _ count ref item)
    ⟨fun _ => rfl, fun item present => nomatch absent.symm.trans present⟩ ?_
  intro count store call reply after asked answers ⟨zero, grown⟩
  cases present : store.contents ref with
  | none =>
      obtain ⟨other, added⟩ := asked.adds answers present
      rw [zero present, if_neg other]
      exact ⟨fun _ => rfl, added⟩
  | some middle =>
      obtain ⟨later, kept, more⟩ := asked.keeps answers present
      obtain ⟨schema, member, system, unnamed, generated, parsed, tended⟩ := grown middle present
      constructor
      · intro missing
        cases missing.symm.trans kept
      · intro item own
        cases kept.symm.trans own
        exact ⟨schema, member, system, unnamed, generated, parsed, tended.trans more⟩

/-- A pass over any snapshot, any of whose store calls may fail, leaves to operators what is theirs.
Every stored object stays, with its name and its source or bindings; a reference only changes from
empty to the name of the schema's generated map, a status only to one that the pass reports for the
object, and the version has been succeeded by the next, with 0 after the largest, once for each
successful update. What is new are maps: each of them is the skeleton of a schema of the snapshot that
has no reference, with placeholders only. -/
theorem pass_keeps_submissions {ω : Type} (operator : OperatorHandler ω) (proxy : Proxy)
    (snapshot : Snapshot) (site : Site ω) :
    let reports := (derived operator proxy snapshot site).1.reports
    let updates := updates operator proxy snapshot site
    let after := (pass operator proxy snapshot site).store
    (∀ ref item, site.store.contents ref = some item →
      ∃ later, after.contents ref = some later ∧ item.Tended reports (updates ref) later) ∧
    ∀ ref item, site.store.contents ref = none → after.contents ref = some item →
      ∃ map, item = .resolverMap map ∧
        (∀ type field entry, map.field? type field = some entry → entry.binding = none) ∧
        ∃ schema ∈ snapshot.schemas, ∃ system, schema.resolverMap = "" ∧
          ref = ⟨.resolverMap, generatedMapName schema.name⟩ ∧
          GraphQL.TypeSystem.parse schema.source = .ok system ∧
          (StoredItem.resolverMap
            { skeleton (generatedMapName schema.name) system with version := 1 }).Tended reports
              (updates ref) item := by
  intro reports updates after
  refine ⟨fun ref item found => pass_tends found, fun ref item absent found => ?_⟩
  obtain ⟨schema, member, system, unnamed, generated, parsed, tended⟩ :=
    (pass_grows absent).2 item found
  cases item with
  | schema => cases tended.submitted
  | resolverMap map =>
      refine ⟨map, rfl, ?_, schema, member, system, unnamed, generated, parsed, tended⟩
      intro type field entry entered
      have types : map.types = (skeleton (generatedMapName schema.name) system).types := by
        cases tended.submitted
        assumption
      have placed : map.field? (⟨type, field⟩ : Coordinate).type (⟨type, field⟩ : Coordinate).field =
          some entry := entered
      obtain ⟨rfl, -⟩ :=
        (field?_skeleton (GraphQL.TypeSystem.parse_distinct parsed) types).1 placed
      rfl

end Site

def lastOrders : Schema where
  name := "orders"
  resolverMap := "calls"
  source := "type Query { total: Int }"
  version := UInt64.size - 1

/-- The pass reports on the schema and updates it once, and its version has not grown by one. -/
theorem lastOrders_version_starts_over :
    let site : Site Unit := { store := ({} : MemoryStore).putSchema lastOrders, operator := () }
    let orders : ObjectRef := ⟨.schema, "orders"⟩
    let updates := site.updates idleOperator halfwayProxy site.store.snapshot orders
    let after := (site.pass idleOperator halfwayProxy site.store.snapshot).store
    site.store.contents orders = some (.schema lastOrders) ∧ updates = 1 ∧
      (after.contents orders).map StoredItem.version = some 0 ∧
      (after.contents orders).map StoredItem.version ≠ some (lastOrders.version + updates) := by
  decide +kernel

end GatewayControl
