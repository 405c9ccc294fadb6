import GatewayControl.Proofs.Derivation
import GatewayControl.Proofs.Site

/-!
Whole passes on a site. A pass derives, serves what was derived, reports, and reconfigures; what it
serves depends on its snapshot alone.
-/

namespace GatewayControl

theorem MemoryStore.exists_endpoint_iff {store : MemoryStore} {name : String} {stored : Schema}
    (found : store.schemas.get? name = some stored) (proxy : Proxy) :
    (∃ endpoint ∈ store.snapshot.schemas.filterMap (endpointOf? proxy store.snapshot),
      endpoint.schema = name) ↔
      ∃ endpoint, endpointOf? proxy store.snapshot stored = some endpoint := by
  have named : stored.name = name := Catalog.name_of_get? found
  constructor
  · rintro ⟨endpoint, member, rfl⟩
    obtain ⟨schema, belongs, built⟩ := List.mem_filterMap.1 member
    obtain ⟨map, _, resolvers, -, -, -, rfl⟩ := endpointOf?_eq_some_iff.1 built
    have own := mem_schemas_snapshot.1 belongs
    rw [found] at own
    cases own
    exact ⟨_, built⟩
  · rintro ⟨endpoint, built⟩
    have member : stored ∈ store.snapshot.schemas := by
      rw [mem_schemas_snapshot, named]
      exact found
    obtain ⟨map, system, resolvers, -, -, -, rfl⟩ := endpointOf?_eq_some_iff.1 built
    exact ⟨_, List.mem_filterMap.2 ⟨stored, member, built⟩, named⟩

theorem mem_steps_worldHandler {σ : Type} {store : StoreHandler σ} {operator : OperatorHandler σ}
    {serve : List Endpoint → σ → σ} {proxy : Proxy} {snapshot : Snapshot} {state : σ}
    {step : Step WorldCall.Reply σ}
    (member : step ∈ (passCalls proxy snapshot).steps (worldHandler store operator serve) state) :
    let derivation := (deriveEndpoints proxy snapshot).run (deriveHandler store operator) state
    (∃ inner ∈ (deriveEndpoints proxy snapshot).steps (deriveHandler store operator) state,
      step ∈ (PassCall.spelled (.derive inner.call)).steps (worldHandler store operator serve)
        inner.before) ∨
    step.call = .serve derivation.1.endpoints ∨
    (∃ inner ∈ (Reporter.writeReports derivation.1.reports).steps store
        (serve derivation.1.endpoints derivation.2), step = inner.embed WorldCall.store) ∨
    step.call = .operator .reconfigure := by
  intro derivation
  have handler : (fun request => (PassCall.spelled (.derive request)).run
      (worldHandler store operator serve)) = deriveHandler store operator :=
    funext fun call => funext fun state => run_spelled _ _ _ (.derive call) state
  rw [passCalls, Program.steps_expand, reconcile, Program.steps_bind, Program.steps_embed,
    Program.run_embed, handler, List.flatMap_append, List.mem_append] at member
  rcases member with inDeriving | after
  · obtain ⟨outer, belongs, inside⟩ := List.mem_flatMap.1 inDeriving
    obtain ⟨inner, derived, rfl⟩ := List.mem_map.1 belongs
    exact .inl ⟨inner, derived, inside⟩
  · simp only [Program.steps_call, Program.steps_done, List.flatMap_cons, List.flatMap_nil,
      List.append_nil, List.mem_append] at after
    rcases after with serving | reporting | reconfiguring
    · exact .inr (.inl (congrArg Step.call (List.mem_singleton.1 serving)))
    · simp only [PassCall.spelled, reportCalls, Program.steps_embed] at reporting
      obtain ⟨inner, written, rfl⟩ := List.mem_map.1 reporting
      exact .inr (.inr (.inl ⟨inner, written, rfl⟩))
    · exact .inr (.inr (.inr (congrArg Step.call (List.mem_singleton.1 reconfiguring))))

namespace Site

variable {ω : Type} (operator : OperatorHandler ω) (proxy : Proxy)

def pass (snapshot : Snapshot) (site : Site ω) : Site ω :=
  ((passCalls proxy snapshot).run (handle operator) site).2

def derived (snapshot : Snapshot) (site : Site ω) : Derivation × Site ω :=
  (deriveEndpoints proxy snapshot).run (deriveHandler handleStore (handleOperator operator)) site

def reported (reports : List Report) (site : Site ω) : Site ω :=
  ((Reporter.writeReports reports).run handleStore site).2

theorem pass_eq (snapshot : Snapshot) (site : Site ω) :
    pass operator proxy snapshot site =
      (handleOperator operator .reconfigure
        (reported (derived operator proxy snapshot site).1.reports
          (serve (derived operator proxy snapshot site).1.endpoints
            (derived operator proxy snapshot site).2))).2 := by
  rw [pass, handle, run_passCalls, reconcile, Program.run_bind, Program.run_embed]
  rfl

theorem mem_steps_passCalls {snapshot : Snapshot} {site : Site ω}
    {step : Step WorldCall.Reply (Site ω)}
    (member : step ∈ (passCalls proxy snapshot).steps (handle operator) site) :
    (∃ inner ∈ (deriveEndpoints proxy snapshot).steps
        (deriveHandler handleStore (handleOperator operator)) site,
      step ∈ (PassCall.spelled (.derive inner.call)).steps (handle operator) inner.before) ∨
    (∃ endpoints, step.call = .serve endpoints) ∨
    (∃ inner ∈ (Reporter.writeReports (derived operator proxy snapshot site).1.reports).steps
        handleStore (serve (derived operator proxy snapshot site).1.endpoints
          (derived operator proxy snapshot site).2), step = inner.embed WorldCall.store) ∨
    step.call = .operator .reconfigure :=
  (mem_steps_worldHandler member).imp_right fun after => after.imp_left fun serving => ⟨_, serving⟩

theorem store_of_handled {operator : OperatorHandler ω} {step : Step WorldCall.Reply (Site ω)}
    (handled : handle operator step.call step.before = (step.reply, step.after))
    (other : ∀ call, step.call ≠ .store call) : step.after.store = step.before.store := by
  obtain ⟨before, call, reply, after⟩ := step
  cases call with
  | store call => exact absurd rfl (other call)
  | operator call => exact (congrArg (fun result => result.2.store) handled).symm
  | serve endpoints => exact (congrArg (fun result => result.2.store) handled).symm

theorem handleStore_table (call : StoreCall) (site : Site ω) :
    (handleStore call site).2.table = site.table := by
  obtain ⟨store, faults, table, state⟩ := site
  match faults with
  | some fault :: faults => rfl
  | none :: faults => rfl
  | [] => rfl

theorem handleStore_operator (call : StoreCall) (site : Site ω) :
    (handleStore call site).2.operator = site.operator := by
  obtain ⟨store, faults, table, state⟩ := site
  match faults with
  | some fault :: faults => rfl
  | none :: faults => rfl
  | [] => rfl

theorem endpoints_derived (snapshot : Snapshot) (site : Site ω) :
    (derived operator proxy snapshot site).1.endpoints =
      snapshot.schemas.filterMap (endpointOf? proxy snapshot) :=
  endpoints_deriveEndpoints site

theorem table_pass (snapshot : Snapshot) (site : Site ω) :
    (pass operator proxy snapshot site).table =
      .ofEndpoints (snapshot.schemas.filterMap (endpointOf? proxy snapshot)) := by
  rw [pass_eq, ← endpoints_derived operator proxy snapshot site]
  exact Program.holds_at_end _
    (fun after : Site ω => after.table = .ofEndpoints (derived operator proxy snapshot site).1.endpoints)
    rfl fun call before same => (handleStore_table call before).trans same

theorem handleStore_eq_of_faultless (call : StoreCall) {site : Site ω} (faultless : site.faults = []) :
    handleStore call site =
      ((MemoryStore.handle call site.store).1,
        { site with store := (MemoryStore.handle call site.store).2 }) := by
  obtain ⟨store, faults, table, state⟩ := site
  cases faultless
  rfl

theorem handleStore_faultless (call : StoreCall) {site : Site ω} (faultless : site.faults = []) :
    (handleStore call site).2.faults = [] := by
  rw [handleStore_eq_of_faultless call faultless]
  exact faultless

theorem faults_run_derive {α : Type} (program : DeriveProgram α) {site : Site ω}
    (faultless : site.faults = []) :
    (program.run (deriveHandler handleStore (handleOperator operator)) site).2.faults = [] := by
  refine Program.holds_at_end program (fun after : Site ω => after.faults = []) faultless ?_
  intro call before same
  cases call with
  | store call => exact handleStore_faultless call same
  | register map => exact same

theorem faults_pass (snapshot : Snapshot) {site : Site ω} (faultless : site.faults = []) :
    (pass operator proxy snapshot site).faults = [] := by
  rw [pass_eq]
  refine Program.holds_at_end _ (fun after : Site ω => after.faults = []) ?_ ?_
  · exact faults_run_derive operator (deriveEndpoints proxy snapshot) faultless
  · exact fun call before same => handleStore_faultless call same

end Site

section

variable {σ : Type} {store : StoreHandler σ} {operator : OperatorHandler σ}
  {serve : List Endpoint → σ → σ} {table : σ → EndpointTable}

/-- Whether the table of a world is what was served last, and no other call changes it. -/
structure Publishes (store : StoreHandler σ) (operator : OperatorHandler σ)
    (serve : List Endpoint → σ → σ) (table : σ → EndpointTable) : Prop where
  served : ∀ endpoints world, table (serve endpoints world) = .ofEndpoints endpoints
  stored : ∀ call world, table (store call world).2 = table world
  operated : ∀ call world, table (operator call world).2 = table world

theorem Site.publishes {ω : Type} (operator : OperatorHandler ω) :
    Publishes Site.handleStore (Site.handleOperator operator) Site.serve Site.table where
  served _ _ := rfl
  stored := Site.handleStore_table
  operated _ _ := rfl

def endpointsOf (proxy : Proxy) (snapshot : Snapshot) : List Endpoint :=
  snapshot.schemas.filterMap (endpointOf? proxy snapshot)

theorem endpoints_of_mem_steps {proxy : Proxy} {snapshot : Snapshot} {world : σ}
    {step : Step WorldCall.Reply σ}
    (member : step ∈ (passCalls proxy snapshot).steps (worldHandler store operator serve) world)
    {endpoints : List Endpoint} (serves : step.call = .serve endpoints) :
    endpoints = endpointsOf proxy snapshot := by
  rcases mem_steps_worldHandler member with
    ⟨⟨before, call, reply, later⟩, -, inside⟩ | serving | ⟨inner, -, rfl⟩ | reconfiguring
  · cases call with
    | store call =>
        rw [List.mem_singleton.1 inside] at serves
        cases serves
    | register map =>
        rw [List.mem_singleton.1 inside] at serves
        cases serves
  · rw [serving] at serves
    cases serves
    exact endpoints_deriveEndpoints world
  · cases serves
  · rw [reconfiguring] at serves
    cases serves

namespace Publishes

variable (publishes : Publishes store operator serve table) (proxy : Proxy) (snapshot : Snapshot)
  (world : σ)

include publishes

/-- While a pass runs, what is served is what was served before it, or what it derives. -/
theorem table_points :
    ∀ point ∈ (passCalls proxy snapshot).points (worldHandler store operator serve) world,
      table point = table world ∨ table point = .ofEndpoints (endpointsOf proxy snapshot) := by
  refine Program.holds_along (fun point => table point = table world ∨
    table point = .ofEndpoints (endpointsOf proxy snapshot)) (.inl rfl) ?_
  intro step member before
  have handled := Program.handled_of_mem_steps member
  have only := @endpoints_of_mem_steps _ _ _ _ _ _ _ _ member
  obtain ⟨earlier, call, reply, after⟩ := step
  have later : after = (worldHandler store operator serve call earlier).2 :=
    (congrArg Prod.snd handled).symm
  subst later
  cases call with
  | store call => rwa [← publishes.stored call earlier] at before
  | operator call => rwa [← publishes.operated call earlier] at before
  | serve endpoints =>
      right
      rw [← only rfl]
      exact publishes.served endpoints earlier

theorem table_run :
    table ((passCalls proxy snapshot).run (worldHandler store operator serve) world).2 =
      .ofEndpoints (endpointsOf proxy snapshot) := by
  rw [run_passCalls, reconcile, Program.run_bind, Program.run_embed]
  simp only [Program.run_call, Program.run_done]
  refine (publishes.operated _ _).trans ?_
  refine (Program.holds_at_end _ (fun point => table point = .ofEndpoints (endpointsOf proxy snapshot))
    ?_ ?_)
  · refine (publishes.served _ _).trans (congrArg EndpointTable.ofEndpoints ?_)
    exact endpoints_deriveEndpoints world
  · exact fun call point same => (publishes.stored call point).trans same

end Publishes

end

end GatewayControl
