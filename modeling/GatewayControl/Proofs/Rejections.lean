import GatewayControl.Proofs.Ownership
import GatewayControl.Proofs.Reporting
import Mathlib.Data.List.Basic

/-!
The statuses of resolver maps over many passes, with other clients at work between them. A pass says
something about a map only if the map does not build for some schema, and is silent about it
otherwise. So a rejection is written by every pass that finds a reason for it, and stays until a
client writes the map or a pass finds another reason.
-/

namespace GatewayControl

variable {ω : Type}

def Step.succeeds {σ : Type} : Step WorldCall.Reply σ → Bool
  | ⟨_, .store _, reply, _⟩ => reply.isOk
  | _ => true

namespace Reporter

theorem writeReport_restates {report : Report} {site : Site ω}
    (succeeded : ∀ step ∈ (writeReport report).steps Site.handleStore site, step.reply.isOk) :
    ∃ step ∈ (writeReport report).steps Site.handleStore site,
      step.after.store.status? report.object = some report.status := by
  obtain ⟨unchanged, got⟩ := (Site.handleStore_answers (.get report.object) site).of_get
  simp only [writeReport, Program.steps_call, List.forall_mem_cons, List.exists_mem_cons_iff]
    at succeeded ⊢
  obtain ⟨read, wrote⟩ := succeeded
  split at wrote
  · rename_i fault failed
    rw [StoreCall.got_eq_error_iff.1 failed] at read
    cases read
  · rename_i item reply
    have found : site.store.contents report.object = some item := got item reply
    split at wrote
    · rename_i same
      left
      rw [unchanged, MemoryStore.status?_eq, found, Option.map_some, same]
    · rename_i different
      right
      simp only [if_neg different, Program.steps_call, List.forall_mem_cons,
        List.exists_mem_cons_iff] at wrote ⊢
      left
      rcases (Site.handleStore_answers (.update (item.withStatus report.status))
        (Site.handleStore (.get report.object) site).2).of_update with
        ⟨-, fault, failed⟩ | ⟨current, -, -, -, updated⟩
      · rw [failed] at wrote
        cases wrote.1
      · rw [updated, MemoryStore.status?_eq, MemoryStore.contents_put, Contents.put, if_pos, Option.map_some]
        · simp
        · simp [MemoryStore.ref_of_contents found]

theorem writeAll_restates {reports : List Report} {report : Report} (member : report ∈ reports)
    {failures : Failures} {site : Site ω}
    (succeeded : ∀ step ∈ (writeAll failures reports).steps Site.handleStore site, step.reply.isOk) :
    ∃ step ∈ (writeAll failures reports).steps Site.handleStore site,
      step.after.store.status? report.object = some report.status := by
  induction reports generalizing failures site with
  | nil => exact (List.not_mem_nil member).elim
  | cons other reports ih =>
      rw [writeAll, Program.steps_bind, List.forall_mem_append] at succeeded
      rw [writeAll, Program.steps_bind]
      rcases List.mem_cons.1 member with rfl | later
      · obtain ⟨step, written, restated⟩ := writeReport_restates succeeded.1
        exact ⟨step, List.mem_append_left _ written, restated⟩
      · obtain ⟨step, written, restated⟩ := ih later succeeded.2
        exact ⟨step, List.mem_append_right _ written, restated⟩

end Reporter

theorem mem_failingMaps_of_reported {operator : OperatorHandler ω} {proxy : Proxy}
    {snapshot : Snapshot} {site : Site ω} {report : Report} {name : String}
    (member : report ∈ (site.derived operator proxy snapshot).1.reports)
    (about : report.object = ⟨.resolverMap, name⟩) :
    name ∈ failingMaps proxy snapshot ∧ report = failingMapReport proxy snapshot name := by
  rw [Site.derived, reports_deriveEndpoints_eq, List.mem_append] at member
  rcases member with ofSchema | ofMap
  · obtain ⟨outcome, -, rfl⟩ := List.mem_map.1 ofSchema
    cases about
  · obtain ⟨map, failing, rfl⟩ := List.mem_map.1 ofMap
    obtain rfl : map = name := congrArg ObjectRef.name about
    exact ⟨failing, rfl⟩

namespace Site

variable {operator : OperatorHandler ω} {proxy : Proxy} {snapshot : Snapshot} {site : Site ω}
  {name : String}

theorem mem_steps_of_written {step : Step StoreCall.Reply (Site ω)}
    (written : step ∈ (Reporter.writeReports (derived operator proxy snapshot site).1.reports).steps
      handleStore (serve (derived operator proxy snapshot site).1.endpoints
        (derived operator proxy snapshot site).2)) :
    step.embed WorldCall.store ∈ (passCalls proxy snapshot).steps (handle operator) site := by
  have handler : (fun request => (PassCall.spelled (.derive request)).run
      (worldHandler handleStore (handleOperator operator) serve)) =
        deriveHandler handleStore (handleOperator operator) :=
    funext fun call => funext fun state => run_spelled _ _ _ (.derive call) state
  rw [passCalls, Program.steps_expand, reconcile, Program.steps_bind, Program.steps_embed,
    Program.run_embed, handle, handler, List.flatMap_append, List.mem_append]
  right
  simp only [Program.steps_call, Program.steps_done, List.flatMap_cons, List.mem_append]
  right
  left
  simp only [PassCall.spelled, reportCalls, Program.steps_embed]
  exact List.mem_map_of_mem written

theorem status_kept_or_reported {step : Step WorldCall.Reply (Site ω)}
    (member : step ∈ (passCalls proxy snapshot).steps (handle operator) site) {map : ResolverMap}
    (found : step.before.store.maps.get? name = some map) :
    step.after.store.status? ⟨.resolverMap, name⟩ = some map.status ∨
      name ∈ failingMaps proxy snapshot ∧ step.after.store.status? ⟨.resolverMap, name⟩ =
        some (failingMapReport proxy snapshot name).status := by
  rcases answers_of_pass member with ⟨before, call, reply, after, rfl, asked, answers⟩ | ⟨-, same⟩
  · have held := MemoryStore.contents_map found
    obtain ⟨later, present, tended⟩ := asked.keeps answers held
    have status : after.store.status? ⟨.resolverMap, name⟩ = some later.status := by
      rw [MemoryStore.status?_eq, present, Option.map_some]
    rcases tended.status with same | ⟨report, reported, about, stated⟩
    · left
      rw [status, same]
      rfl
    · rw [MemoryStore.ref_of_contents held] at about
      obtain ⟨failing, rfl⟩ := mem_failingMaps_of_reported reported about
      right
      exact ⟨failing, by rw [status, stated]⟩
  · left
    rw [same]
    simp [MemoryStore.status?, found]

theorem pass_silent {status : Status} (spared : name ∉ failingMaps proxy snapshot)
    (stored : site.store.status? ⟨.resolverMap, name⟩ = some status) :
    (pass operator proxy snapshot site).store.status? ⟨.resolverMap, name⟩ = some status := by
  refine Program.holds_along
    (fun point : Site ω => point.store.status? ⟨.resolverMap, name⟩ = some status) stored ?_ _
    (Program.end_mem_points _ _ _)
  intro step member before
  obtain ⟨map, found, same⟩ := Option.map_eq_some_iff.1 before
  rcases status_kept_or_reported member found with kept | ⟨failing, -⟩
  · rw [kept, same]
  · exact absurd failing spared

theorem pass_rejects (failing : name ∈ failingMaps proxy snapshot)
    (succeeded : ∀ step ∈ (passCalls proxy snapshot).steps (handle operator) site, step.succeeds) :
    (pass operator proxy snapshot site).store.status? ⟨.resolverMap, name⟩ =
      some (failingMapReport proxy snapshot name).status := by
  let reports := (derived operator proxy snapshot site).1.reports
  have reported : failingMapReport proxy snapshot name ∈ reports := by
    rw [show reports = _ from reports_deriveEndpoints_eq site]
    exact List.mem_append_right _ (List.mem_map_of_mem failing)
  obtain ⟨step, written, restated⟩ : ∃ step ∈ (Reporter.writeReports reports).steps handleStore
      (serve (derived operator proxy snapshot site).1.endpoints
        (derived operator proxy snapshot site).2),
      step.after.store.status? ⟨.resolverMap, name⟩ =
        some (failingMapReport proxy snapshot name).status := by
    rw [Reporter.writeReports, Program.steps_bind, Program.steps_done, List.append_nil]
    apply Reporter.writeAll_restates reported
    intro step written
    apply succeeded (step.embed WorldCall.store)
    apply mem_steps_of_written
    rw [Reporter.writeReports, Program.steps_bind]
    exact List.mem_append_left _ written
  refine Program.holds_since (fun point : Site ω => point.store.status? ⟨.resolverMap, name⟩ =
    some (failingMapReport proxy snapshot name).status) (mem_steps_of_written written) restated ?_
  intro later member before
  obtain ⟨map, found, same⟩ := Option.map_eq_some_iff.1 before
  rcases status_kept_or_reported member found with kept | ⟨-, stated⟩
  · rw [kept, same]
  · exact stated

end Site

/-! Runs of passes and clients. -/

/-- What befalls a store in memory: a call of a client, or a pass over what is stored, in which the
given faults come up. -/
inductive StoreEvent
  | client (call : StoreCall)
  | pass (faults : List (Option StorageFault))

/-- Whether an event leaves the status of a map alone: a client does not write the map, a pass does
not fail for it. -/
def StoreEvent.Spares (proxy : Proxy) (name : String) (store : MemoryStore) : StoreEvent → Prop
  | client call => call.updated? (MemoryStore.handle call store).1 ≠ some ⟨.resolverMap, name⟩
  | pass _ => name ∉ failingMaps proxy store.snapshot

namespace Site

variable (operator : OperatorHandler ω) (proxy : Proxy)

def act (site : Site ω) : StoreEvent → Site ω
  | .client call => { site with store := (MemoryStore.handle call site.store).2 }
  | .pass faults => pass operator proxy site.store.snapshot { site with faults }

def actAll (site : Site ω) (events : List StoreEvent) : Site ω := events.foldl (act operator proxy) site

def AllSpare (name : String) : List StoreEvent → Site ω → Prop
  | [], _ => True
  | event :: events, site =>
    event.Spares proxy name site.store ∧ AllSpare name events (site.act operator proxy event)

variable {operator proxy} {name : String} {status : Status}

theorem act_spares {event : StoreEvent} {site : Site ω}
    (spares : event.Spares proxy name site.store)
    (stored : site.store.status? ⟨.resolverMap, name⟩ = some status) :
    (site.act operator proxy event).store.status? ⟨.resolverMap, name⟩ = some status := by
  cases event with
  | client call =>
      rw [act, MemoryStore.status?_eq] at *
      obtain ⟨item, found, -⟩ := Option.map_eq_some_iff.1 stored
      rcases (MemoryStore.handle_answers call site.store).contents.at_ref ⟨.resolverMap, name⟩ with
        ⟨-, same⟩ | ⟨-, -, -, updated, -⟩ | ⟨-, -, -, -, absent, -⟩
      · rw [same, stored]
      · exact absurd updated spares
      · cases absent.symm.trans found
  | pass faults =>
      rw [act]
      apply pass_silent spares
      exact stored

theorem actAll_spares {events : List StoreEvent} {site : Site ω}
    (spared : AllSpare operator proxy name events site)
    (stored : site.store.status? ⟨.resolverMap, name⟩ = some status) :
    (site.actAll operator proxy events).store.status? ⟨.resolverMap, name⟩ = some status := by
  induction events generalizing site with
  | nil => exact stored
  | cons event events ih => exact ih spared.2 (act_spares spared.1 stored)

end Site

/-- A pass that fails for a map rejects it for all the causes it found, if no call of the store
fails; a pass that does not fail for a map leaves its status as it was, also if it built endpoints
from the map. Between those, and but for the writes of clients, the status of a map stays. -/
theorem rejected_by_last_failing_pass (operator : OperatorHandler ω) (proxy : Proxy)
    (start : Site ω) (past : List StoreEvent) (faults : List (Option StorageFault)) :
    let site := { start.actAll operator proxy past with faults }
    let snapshot := site.store.snapshot
    let after := start.actAll operator proxy (past ++ [.pass faults])
    (∀ step ∈ (passCalls proxy snapshot).steps (Site.handle operator) site, step.succeeds) →
    (∀ name ∈ failingMaps proxy snapshot, ∃ failure,
      (⟨buildCauses proxy snapshot name⟩ : Failures).toFailure? = some failure ∧
        after.store.status? ⟨.resolverMap, name⟩ = some (.rejected failure.message)) ∧
    (∀ name, name ∉ failingMaps proxy snapshot → ∀ status,
      site.store.status? ⟨.resolverMap, name⟩ = some status →
        after.store.status? ⟨.resolverMap, name⟩ = some status) ∧
    ∀ name status later, after.store.status? ⟨.resolverMap, name⟩ = some status →
      Site.AllSpare operator proxy name later after →
        (after.actAll operator proxy later).store.status? ⟨.resolverMap, name⟩ = some status := by
  intro site snapshot after succeeded
  have passed : after = site.pass operator proxy snapshot := by
    simp [after, Site.actAll, Site.act, site, snapshot]
  refine ⟨?_, ?_, fun name status later stored spared => Site.actAll_spares spared stored⟩
  · intro name failing
    have caused : (⟨buildCauses proxy snapshot name⟩ : Failures).causes ≠ [] :=
      buildCauses_ne_nil failing
    obtain ⟨failure, gathered⟩ := Failures.toFailure?_eq_some_of_ne_nil caused
    refine ⟨failure, gathered, ?_⟩
    rw [passed, Site.pass_rejects failing succeeded, failingMapReport, gathered]
    rfl
  · intro name spared status stored
    rw [passed]
    exact Site.pass_silent spared stored

def sharedSite : Site Unit where
  store := (({} : MemoryStore).putSchema
    { name := "orders", resolverMap := "shared", source := "type Query { total: Int count: Int }" }).putMap
      (({ name := "shared" } : ResolverMap).withField "Query" "total" none)
  operator := ()

/-- The other field is removed after a pass, which accepted the schema and so wrote version 2. -/
def removal : StoreEvent := .client (.updateSchema
  { name := "orders", resolverMap := "shared", source := "type Query { total: Int }", version := 2,
    status := .accepted })

/-- The map is rejected by the first pass, and still after the second, which serves the schema from
it and fails for no map. -/
theorem shared_rejected_after_repair :
    let site := sharedSite.actAll idleOperator halfwayProxy [.pass [], removal]
    let snapshot := site.store.snapshot
    let after := site.act idleOperator halfwayProxy (.pass [])
    (∀ step ∈ (passCalls halfwayProxy snapshot).steps (Site.handle idleOperator) site,
      step.succeeds) ∧
    (∃ schema ∈ snapshot.schemas, ∃ map, servedMap? halfwayProxy snapshot schema = some map ∧
      map.name = "shared") ∧
    failingMaps halfwayProxy snapshot = [] ∧
    ∃ status, after.store.status? ⟨.resolverMap, "shared"⟩ = some status ∧
      status.state = .rejected := by
  decide +kernel

theorem shared_rejected_until_written :
    let rejecting := sharedSite.actAll idleOperator halfwayProxy [.pass []]
    let failures : Failures := ⟨buildCauses halfwayProxy sharedSite.store.snapshot "shared"⟩
    ∃ failure, failures.toFailure? = some failure ∧
      rejecting.store.status? ⟨.resolverMap, "shared"⟩ = some (.rejected failure.message) ∧
      (rejecting.actAll idleOperator halfwayProxy [removal, .pass []]).store.status?
        ⟨.resolverMap, "shared"⟩ = some (.rejected failure.message) := by
  intro rejecting failures
  have failing : "shared" ∈ failingMaps halfwayProxy sharedSite.store.snapshot := by
    decide +kernel
  obtain ⟨rejected, -, stays⟩ :=
    rejected_by_last_failing_pass idleOperator halfwayProxy sharedSite [] [] (by decide +kernel)
  obtain ⟨failure, gathered, stored⟩ := rejected "shared" failing
  have unwritten : removal.Spares halfwayProxy "shared" rejecting.store := by
    rw [removal, StoreEvent.Spares]
    decide +kernel
  have repaired : "shared" ∉ failingMaps halfwayProxy
      (rejecting.act idleOperator halfwayProxy removal).store.snapshot := by
    decide +kernel
  exact ⟨failure, gathered, stored, stays "shared" _ [removal, .pass []] stored
    ⟨unwritten, repaired, trivial⟩⟩

end GatewayControl
