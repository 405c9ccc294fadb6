import GatewayControl.Gateway
import GatewayControl.Proofs.Routing
import GatewayControl.Proofs.Settled

/-!
Reconciliation comes to rest. The first pass over what is stored gives references to all schemas that
can have one, the second stores the reports, and every further pass derives what the second derived,
finds nothing to write, and meets the proxy as the second left it.
-/

namespace GatewayControl

namespace RouteOperator

theorem pending_registerAll {left right : RouteOperator} (same : left.pending = right.pending)
    (maps : List ResolverMap) :
    (left.registerAll maps).pending = (right.registerAll maps).pending := by
  induction maps generalizing left right with
  | nil => exact same
  | cons map maps ih =>
      have one : (left.register map).2.pending = (right.register map).2.pending := by
        rw [register, register]
        cases routesOf map with
        | error fault => exact same
        | ok routes => simp only [same]
      exact ih one

theorem registerAll_declared (maps : List ResolverMap) (operator : RouteOperator) :
    operator.registerAll (maps.map ResolverMap.declared) = operator.registerAll maps := by
  induction maps generalizing operator with
  | nil => rfl
  | cons map maps ih => exact ih (operator.register map).2

theorem pending_reconfigure {σ : Type} (handler : DiskHandler σ) (operator : RouteOperator)
    (state : σ) : (operator.reconfigure.run handler state).1.2.pending = [] := by
  rw [reconfigure]
  by_cases same : operator.lastWritten = some operator.table
  · simp only [same, if_true, Program.run_done]
  · simp only [same, if_false, Program.run_bind]
    cases ((operator.write operator.table).run handler state).1 <;> rfl

def handle : OperatorHandler (RouteOperator × Disk)
  | .register map, (operator, tree) => ((operator.register map).1, (operator.register map).2, tree)
  | .reconfigure, (operator, tree) =>
    let run := operator.reconfigure.run Disk.handle tree
    (run.1.1, run.1.2, run.2)

end RouteOperator

namespace Site

theorem run_passCalls_eq {ω : Type} (operator : OperatorHandler ω) (proxy : Proxy)
    (snapshot : Snapshot) (site : Site ω) :
    (passCalls proxy snapshot).run (handle operator) site =
      let derivation := derived operator proxy snapshot site
      let written := (Reporter.writeReports derivation.1.reports).run handleStore
        (serve derivation.1.endpoints derivation.2)
      let closed := handleOperator operator .reconfigure written.2
      (((gatherReported derivation.1.reports).pushAll
        (derivation.1.failures ++ failureOf written.1 ++ operatorFailureOf closed.1)).toResult,
          closed.2) := by
  rw [handle, run_passCalls, reconcile, Program.run_bind, Program.run_embed]
  rfl

/-- What the operator comes to when a pass has registered all maps and reconfigures. -/
def closing (proxy : Proxy) (site : Site (RouteOperator × Disk)) :
    Except OperatorFault Unit × RouteOperator × Disk :=
  RouteOperator.handle .reconfigure
    (site.operator.1.registerAll
      (site.store.snapshot.schemas.filterMap (servedMap? proxy site.store.snapshot)),
      site.operator.2)

variable {proxy : Proxy} {site : Site (RouteOperator × Disk)}

theorem registers :
    Registers (deriveHandler handleStore (handleOperator RouteOperator.handle))
      (fun site : Site (RouteOperator × Disk) => site.operator.1) where
  register _ _ := ⟨rfl, rfl⟩
  store call site := congrArg Prod.fst (handleStore_operator call site)

theorem operator_derived (snapshot : Snapshot) :
    (derived RouteOperator.handle proxy snapshot site).2.operator =
      (site.operator.1.registerAll (snapshot.schemas.filterMap (servedMap? proxy snapshot)),
        site.operator.2) := by
  have registered := registers.operator_deriveEndpoints proxy snapshot site
  have disk : (derived RouteOperator.handle proxy snapshot site).2.operator.2 = site.operator.2 := by
    refine Program.holds_at_end (deriveEndpoints proxy snapshot)
      (fun after : Site (RouteOperator × Disk) => after.operator.2 = site.operator.2) rfl ?_
    intro call before same
    cases call with
    | store call => exact (congrArg Prod.snd (handleStore_operator call before)).trans same
    | register map => exact same
  exact Prod.ext registered disk

theorem run_complete (proxy : Proxy) (faultless : site.faults = []) (complete : site.store.snapshot.Complete) :
    let run := (passCalls proxy site.store.snapshot).run (handle RouteOperator.handle) site
    run.1 = ((gatherReported (reportsOf proxy site.store.snapshot)).pushAll
        (operatorFailureOf (site.closing proxy).1)).toResult ∧
      run.2.operator = (site.closing proxy).2 := by
  have reports : (derived RouteOperator.handle proxy site.store.snapshot site).1.reports =
      reportsOf proxy site.store.snapshot := reports_deriveEndpoints complete site
  have failures : (derived RouteOperator.handle proxy site.store.snapshot site).1.failures = [] :=
    registers.failures_deriveEndpoints proxy site.store.snapshot site
  have stillFaultless : (derived RouteOperator.handle proxy site.store.snapshot site).2.faults = [] :=
    faults_run_derive RouteOperator.handle (deriveEndpoints proxy site.store.snapshot) faultless
  have sameStore : (derived RouteOperator.handle proxy site.store.snapshot site).2.store = site.store :=
    store_derived complete
  have ownOperator : (derived RouteOperator.handle proxy site.store.snapshot site).2.operator = _ :=
    operator_derived site.store.snapshot
  rw [run_passCalls_eq]
  generalize derived RouteOperator.handle proxy site.store.snapshot site = derivation
    at reports failures stillFaultless sameStore ownOperator ⊢
  simp only [reports, failures]
  have written : ((Reporter.writeReports (reportsOf proxy site.store.snapshot)).run handleStore
      (serve derivation.1.endpoints derivation.2)).1 = .ok () := by
    obtain ⟨nothing, -⟩ := Reporter.run_writeAll (nodup_reportsOf proxy site.store)
      (fun _ => status?_of_reportsOf) {}
    rw [(run_store _ (by exact stillFaultless)).1, serve, sameStore, Reporter.run_writeReports, nothing]
    rfl
  have closed : ((Reporter.writeReports (reportsOf proxy site.store.snapshot)).run handleStore
      (serve derivation.1.endpoints derivation.2)).2.operator = derivation.2.operator :=
    Program.holds_at_end _
      (fun after : Site (RouteOperator × Disk) => after.operator = derivation.2.operator) rfl
      fun call before same => (handleStore_operator call before).trans same
  simp only [written, handleOperator, closed, ownOperator]
  exact ⟨rfl, rfl⟩

theorem ext_of {ω : Type} {left right : Site ω} (store : left.store = right.store)
    (faults : left.faults = right.faults) (table : left.table = right.table)
    (operator : left.operator = right.operator) : left = right := by
  cases left
  cases right
  simp_all

theorem closing_again {after : Site (RouteOperator × Disk)} (nothing : site.operator.1.pending = [])
    (declared : after.store.snapshot.declared = site.store.snapshot.declared)
    (closed : after.operator = (site.closing proxy).2) :
    after.closing proxy = site.closing proxy := by
  have maps : (after.store.snapshot.schemas.filterMap (servedMap? proxy after.store.snapshot)).map
      ResolverMap.declared =
        (site.store.snapshot.schemas.filterMap (servedMap? proxy site.store.snapshot)).map
          ResolverMap.declared := by
    rw [← servedMaps_declared, declared, servedMaps_declared]
  have emptied : after.operator.1.pending = [] := by
    rw [closed]
    exact RouteOperator.pending_reconfigure Disk.handle _ _
  rw [closing, ← RouteOperator.registerAll_declared, maps, RouteOperator.registerAll_declared,
    RouteOperator.registerAll_eq,
    RouteOperator.pending_registerAll (emptied.trans nothing.symm), closed]
  have again := RouteOperator.run_reconfigure_again (site.operator.1.registerAll
    (site.store.snapshot.schemas.filterMap (servedMap? proxy site.store.snapshot))) site.operator.2
  simp only [closing, RouteOperator.handle]
  rw [again]

/-- After a pass over a complete store that finds no routes pending, one more pass gives the same
result and changes nothing. -/
theorem run_again (faultless : site.faults = []) (complete : site.store.snapshot.Complete)
    (nothing : site.operator.1.pending = []) :
    let run := (passCalls proxy site.store.snapshot).run (handle RouteOperator.handle) site
    (passCalls proxy run.2.store.snapshot).run (handle RouteOperator.handle) run.2 = run := by
  intro run
  have declared : run.2.store.snapshot.declared = site.store.snapshot.declared :=
    (settled_pass faultless complete).1
  have settled : Settled proxy run.2.store := (settled_pass faultless complete).2
  have stillFaultless : run.2.faults = [] := faults_pass RouteOperator.handle proxy _ faultless
  have table : run.2.table = _ :=
    table_pass RouteOperator.handle proxy site.store.snapshot site
  obtain ⟨result, closed⟩ : run.1 = _ ∧ run.2.operator = _ := run_complete proxy faultless complete
  clear_value run
  have unchanged : (pass RouteOperator.handle proxy run.2.store.snapshot run.2).store =
      run.2.store := store_pass_of_settled stillFaultless settled
  have faults := faults_pass RouteOperator.handle proxy run.2.store.snapshot stillFaultless
  have served := table_pass RouteOperator.handle proxy run.2.store.snapshot run.2
  obtain ⟨resultAgain, closedAgain⟩ := run_complete proxy stillFaultless settled.complete
  have same : run.2.closing proxy = site.closing proxy := closing_again nothing declared closed
  have reports : reportsOf proxy run.2.store.snapshot = reportsOf proxy site.store.snapshot := by
    rw [← reportsOf_declared, declared, reportsOf_declared]
  have endpoints : run.2.store.snapshot.schemas.filterMap
      (endpointOf? proxy run.2.store.snapshot) =
        site.store.snapshot.schemas.filterMap (endpointOf? proxy site.store.snapshot) := by
    rw [← endpoints_declared, declared, endpoints_declared]
  rw [same, reports] at resultAgain
  rw [same] at closedAgain
  rw [endpoints] at served
  exact Prod.ext (resultAgain.trans result.symm)
    (ext_of unchanged (faults.trans stillFaultless.symm) (served.trans table.symm)
      (closedAgain.trans closed.symm))

end Site

namespace Gateway

def site (gateway : Gateway) : Site (RouteOperator × Disk) where
  store :=
    match gateway.backend with
    | .memory store => store
    | .files _ => {}
  table := gateway.table
  operator := (gateway.operator, gateway.disk)

structure InMemory (proxy : Proxy) (gateway : Gateway) : Prop where
  backend : gateway.backend = .memory gateway.site.store
  proxy : gateway.proxy = proxy

def refresh (gateway : Gateway) : Except Failure Unit × Gateway :=
  match gateway.snapshot with
  | .ok snapshot => gateway.pass snapshot
  | .error fault => (.error (.watch (.load fault)), gateway)

def refreshes : Nat → Gateway → Gateway
  | 0, gateway => gateway
  | count + 1, gateway => refreshes count gateway.refresh.2

section

variable {gateway : Gateway} {proxy : Proxy}

theorem handleStore_site (call : StoreCall) (memory : gateway.InMemory proxy) :
    (handleStore call gateway).2.InMemory proxy ∧
      (handleStore call gateway).1 = (Site.handleStore call gateway.site).1 ∧
      (handleStore call gateway).2.site = (Site.handleStore call gateway.site).2 := by
  obtain ⟨stored, own⟩ := memory
  obtain ⟨backend, proxy, operator, disk, table, metrics, reports⟩ := gateway
  cases backend with
  | files store => cases stored
  | memory store => exact ⟨⟨rfl, own⟩, rfl, rfl⟩

theorem handlePass_site (call : PassCall) (memory : gateway.InMemory proxy) :
    let handle := passHandler Site.handleStore (Site.handleOperator RouteOperator.handle) Site.serve
      fun _ site => site
    (handlePass call gateway).2.InMemory proxy ∧
      (handlePass call gateway).1 = (handle call gateway.site).1 ∧
      (handlePass call gateway).2.site = (handle call gateway.site).2 := by
  intro handle
  have still : ∀ other : Gateway, other.backend = gateway.backend → other.proxy = gateway.proxy →
      other.InMemory proxy := by
    intro other backend own
    refine ⟨?_, own.trans memory.proxy⟩
    have stored := memory.backend
    rw [site] at stored ⊢
    rw [backend]
    exact stored
  cases call with
  | derive call =>
      cases call with
      | store call => exact handleStore_site call memory
      | register map => exact ⟨still _ rfl rfl, rfl, rfl⟩
  | serve endpoints => exact ⟨still _ rfl rfl, rfl, rfl⟩
  | writeReports reports =>
      exact Program.run_view (InMemory proxy) (fun call gateway memory => handleStore_site call memory)
        (Reporter.writeReports reports) (still (noteReports reports gateway) rfl rfl)
  | reconfigure => exact ⟨still _ rfl rfl, rfl, rfl⟩

theorem refresh_site (memory : gateway.InMemory proxy) :
    let run := (passCalls proxy gateway.site.store.snapshot).run (Site.handle RouteOperator.handle)
      gateway.site
    gateway.refresh.2.InMemory proxy ∧ gateway.refresh.1 = run.1 ∧
      gateway.refresh.2.site = run.2 := by
  intro run
  have read : gateway.snapshot = .ok gateway.site.store.snapshot := by
    obtain ⟨stored, -⟩ := memory
    obtain ⟨backend, proxy, operator, disk, table, metrics, reports⟩ := gateway
    cases backend with
    | files store => cases stored
    | memory store => rfl
  have whole : run = _ := run_passCalls Site.handleStore (Site.handleOperator RouteOperator.handle)
    Site.serve proxy gateway.site.store.snapshot gateway.site
  have passed : gateway.refresh = gateway.pass gateway.site.store.snapshot := by
    rw [refresh, read]
  rw [passed, whole, pass, memory.proxy]
  obtain ⟨kept, result, seen⟩ := Program.run_view (InMemory proxy)
    (fun call gateway memory => handlePass_site call memory)
    (reconcile proxy gateway.site.store.snapshot) memory
  exact ⟨⟨kept.backend, kept.proxy⟩, result, seen⟩

/-- Whether a gateway is at a site that one more pass leaves as it is, with the given result. -/
structure Resting (proxy : Proxy) (result : Except Failure Unit)
    (rest : Site (RouteOperator × Disk)) (gateway : Gateway) : Prop where
  memory : gateway.InMemory proxy
  seen : gateway.site = rest
  again : (passCalls proxy rest.store.snapshot).run (Site.handle RouteOperator.handle) rest =
    (result, rest)

section

variable {result : Except Failure Unit} {rest : Site (RouteOperator × Disk)}

theorem Resting.refresh (resting : gateway.Resting proxy result rest) :
    gateway.refresh.1 = result ∧ gateway.refresh.2.Resting proxy result rest := by
  obtain ⟨memory, rfl, again⟩ := resting
  obtain ⟨kept, same, seen⟩ := refresh_site memory
  rw [again] at same seen
  exact ⟨same, kept, seen, again⟩

theorem Resting.refreshes (count : Nat) (resting : gateway.Resting proxy result rest) :
    (gateway.refreshes count).Resting proxy result rest := by
  induction count generalizing gateway with
  | zero => exact resting
  | succ count ih => exact ih resting.refresh.2

end

theorem pending_passed (site : Site (RouteOperator × Disk)) (snapshot : Snapshot) :
    ((passCalls proxy snapshot).run (Site.handle RouteOperator.handle) site).2.operator.1.pending =
      [] := by
  rw [Site.run_passCalls_eq]
  exact RouteOperator.pending_reconfigure Disk.handle _ _

theorem resting_of_memory (memory : gateway.InMemory proxy) :
    let second := gateway.refresh.2.refresh
    second.2.Resting proxy second.1 second.2.site := by
  intro second
  obtain ⟨memoryFirst, -, siteFirst⟩ := refresh_site memory
  obtain ⟨memorySecond, result, siteSecond⟩ := refresh_site memoryFirst
  have faultless : gateway.refresh.2.site.faults = [] := rfl
  have complete : gateway.refresh.2.site.store.snapshot.Complete := by
    rw [siteFirst]
    exact Site.complete_pass rfl
  have nothing : gateway.refresh.2.site.operator.1.pending = [] := by
    rw [siteFirst]
    exact pending_passed _ _
  refine ⟨memorySecond, rfl, ?_⟩
  rw [siteSecond, result]
  exact Site.run_again faultless complete nothing

end

/-- With the store in memory and nobody else writing to it, two passes bring a gateway to rest,
whatever was stored: every further pass gives the result of the second one and leaves the store, the
endpoints that are served, the operator and its disk as they are. -/
theorem refreshes_settle (gateway : Gateway) (store : MemoryStore) (count : Nat) :
    let start := { gateway with backend := .memory store }
    let second := start.refresh.2.refresh
    let further := (second.2.refreshes count).refresh
    further.1 = second.1 ∧ further.2.backend = second.2.backend ∧
      further.2.table = second.2.table ∧ further.2.operator = second.2.operator ∧
      further.2.disk = second.2.disk := by
  intro start second further
  have memory : start.InMemory gateway.proxy := ⟨rfl, rfl⟩
  have rests := resting_of_memory memory
  obtain ⟨result, still⟩ := (rests.refreshes count).refresh
  refine ⟨result, ?_, congrArg Site.table still.seen,
    congrArg (fun site => site.operator.1) still.seen,
    congrArg (fun site => site.operator.2) still.seen⟩
  rw [still.memory.backend, rests.memory.backend]
  exact congrArg (fun site => Backend.memory site.store) still.seen

end Gateway

end GatewayControl
