import GatewayControl.Proofs.Recovery
import GatewayControl.Proofs.Reporting

/-!
Stores that passes leave alone. A pass without failing calls leaves no schema without a reference
that could be given one, and if there was none to begin with it leaves every report as the status of
its object. What it derives is then derived again, and nothing is left to write.
-/

namespace GatewayControl

open GraphQL (TypeSystem)

variable {ω : Type}

section

variable {proxy : Proxy} {store : MemoryStore}

theorem nodup_reportsOf (proxy : Proxy) (store : MemoryStore) :
    ((reportsOf proxy store.snapshot).map Report.object).Nodup := by
  rw [reportsOf, List.map_append, List.map_map, List.map_map, List.nodup_append]
  refine ⟨?_, ?_, ?_⟩
  · have names := store.schemas.nodup_names_values
    rw [List.Nodup, List.pairwise_map] at names ⊢
    exact names.imp fun different same => different (congrArg ObjectRef.name same)
  · have names : (failingMaps proxy store.snapshot).Nodup := nodup_eraseDups _
    rw [List.Nodup, List.pairwise_map]
    exact names.imp fun different same => different (congrArg ObjectRef.name same)
  · intro left member right belongs same
    obtain ⟨schema, -, rfl⟩ := List.mem_map.1 member
    obtain ⟨map, -, rfl⟩ := List.mem_map.1 belongs
    cases same

theorem status?_of_reportsOf {report : Report} (member : report ∈ reportsOf proxy store.snapshot) :
    (store.status? report.object).isSome := by
  rw [reportsOf, List.mem_append] at member
  rcases member with member | member
  · obtain ⟨schema, stored, rfl⟩ := List.mem_map.1 member
    have found := MemoryStore.mem_schemas_snapshot.1 stored
    simp [MemoryStore.status?, found]
  · obtain ⟨map, failing, rfl⟩ := List.mem_map.1 member
    obtain ⟨stored, belongs, rfl⟩ := mem_maps_of_failing failing
    have found : store.maps.get? stored.name = some stored := Catalog.mem_values.1 belongs
    simp [MemoryStore.status?, failingMapReport, found]

def Snapshot.Complete (snapshot : Snapshot) : Prop :=
  ∀ schema ∈ snapshot.schemas, ¬schema.Bootstraps

theorem complete_declared {snapshot : Snapshot} : snapshot.declared.Complete ↔ snapshot.Complete := by
  rw [Snapshot.Complete, schemas_declared, List.forall_mem_map]
  rfl

/-- Whether no schema is to be given a generated map and the reports are stored as statuses. -/
structure Settled (proxy : Proxy) (store : MemoryStore) : Prop where
  complete : store.snapshot.Complete
  reported : ∀ report ∈ reportsOf proxy store.snapshot,
    store.status? report.object = some report.status

end

def StoreCall.writes : StoreCall → Bool
  | updateSchema _ | createMap _ | updateMap _ => true
  | getSchema _ | listSchemas | getMap _ | listMaps => false

theorem StoreCall.writes_get (object : ObjectRef) : (StoreCall.get object).writes = false := by
  obtain ⟨kind, name⟩ := object
  cases kind <;> rfl

def WorldCall.writes : WorldCall → Bool
  | store call => call.writes
  | operator _ | serve _ => false

namespace Site

variable {operator : OperatorHandler ω} {proxy : Proxy} {site : Site ω}

theorem run_store {α : Type} (program : StoreProgram α) (faultless : site.faults = []) :
    (program.run handleStore site).1 = (program.run MemoryStore.handle site.store).1 ∧
      (program.run handleStore site).2.store = (program.run MemoryStore.handle site.store).2 := by
  have agrees : ∀ call (point : Site ω), point.faults = [] → (handleStore call point).2.faults = [] ∧
      (handleStore call point).1 = (MemoryStore.handle call point.store).1 ∧
      (handleStore call point).2.store = (MemoryStore.handle call point.store).2 := by
    intro call point faultless
    rw [handleStore_eq_of_faultless call faultless]
    exact ⟨faultless, rfl, rfl⟩
  exact (Program.run_view (fun point : Site ω => point.faults = []) agrees program faultless).2

theorem store_derived {snapshot : Snapshot} (complete : snapshot.Complete) :
    (derived operator proxy snapshot site).2.store = site.store := by
  refine Program.holds_along (fun point : Site ω => point.store = site.store) rfl ?_ _
    (Program.end_mem_points _ _ _)
  intro step member same
  obtain ⟨map, registers⟩ := registers_deriveEndpoints complete site step member
  have handled := Program.handled_of_mem_steps member
  obtain ⟨before, call, reply, after⟩ := step
  cases registers
  exact (congrArg (fun result => result.2.store) handled).symm.trans same

theorem store_pass (faultless : site.faults = []) (complete : site.store.snapshot.Complete) :
    (pass operator proxy site.store.snapshot site).store =
      ((Reporter.writeAll {} (reportsOf proxy site.store.snapshot)).run MemoryStore.handle
        site.store).2 := by
  have reports : (derived operator proxy site.store.snapshot site).1.reports =
      reportsOf proxy site.store.snapshot := reports_deriveEndpoints complete site
  have stillFaultless := faults_run_derive operator (deriveEndpoints proxy site.store.snapshot) faultless
  rw [pass_eq]
  change (reported _ _).store = _
  rw [reported, reports, (run_store _ (by exact stillFaultless)).2, serve, store_derived complete,
    Reporter.run_writeReports]

theorem settled_pass (faultless : site.faults = []) (complete : site.store.snapshot.Complete) :
    let after := (pass operator proxy site.store.snapshot site).store
    after.snapshot.declared = site.store.snapshot.declared ∧ Settled proxy after := by
  intro after
  obtain ⟨-, declared, reported, -⟩ := Reporter.run_writeAll (nodup_reportsOf proxy site.store)
    (fun _ => status?_of_reportsOf) {}
  have passed : after = _ := store_pass faultless complete
  rw [← passed] at declared reported
  have reports : reportsOf proxy after.snapshot = reportsOf proxy site.store.snapshot := by
    rw [← reportsOf_declared, declared, reportsOf_declared]
  refine ⟨declared, complete_declared.1 (declared ▸ complete_declared.2 complete), ?_⟩
  rw [reports]
  exact reported

theorem writeReport_reads {report : Report} (faultless : site.faults = [])
    (stored : site.store.status? report.object = some report.status) :
    (∀ step ∈ (Reporter.writeReport report).steps handleStore site, step.call.writes = false) ∧
      ((Reporter.writeReport report).run handleStore site).2 = site := by
  rw [MemoryStore.status?_eq] at stored
  obtain ⟨item, found, same⟩ := Option.map_eq_some_iff.1 stored
  obtain ⟨got, kept⟩ := MemoryStore.handle_get found
  have answered := handleStore_eq_of_faultless (.get report.object) faultless
  simp [Reporter.writeReport, answered, got, kept, same, StoreCall.writes_get]

theorem writeAll_reads {reports : List Report} (faultless : site.faults = [])
    (stored : ∀ report ∈ reports, site.store.status? report.object = some report.status)
    (failures : Failures) :
    ∀ step ∈ (Reporter.writeAll failures reports).steps handleStore site,
      step.call.writes = false := by
  induction reports generalizing failures with
  | nil => exact fun _ member => (List.not_mem_nil member).elim
  | cons report reports ih =>
      obtain ⟨here, later⟩ := List.forall_mem_cons.1 stored
      obtain ⟨reads, same⟩ := writeReport_reads faultless here
      intro step member
      rw [Reporter.writeAll, Program.steps_bind, same, List.mem_append] at member
      rcases member with first | rest
      · exact reads step first
      · exact ih later _ step rest

theorem pass_reads (faultless : site.faults = []) (settled : Settled proxy site.store) :
    ∀ step ∈ (passCalls proxy site.store.snapshot).steps (handle operator) site,
      step.call.writes = false := by
  intro step member
  rcases mem_steps_passCalls operator proxy member with
    ⟨inner, inDeriving, inside⟩ | ⟨endpoints, serving⟩ | ⟨inner, written, rfl⟩ | reconfiguring
  · obtain ⟨map, registers⟩ := registers_deriveEndpoints settled.complete site inner inDeriving
    rw [registers] at inside
    rw [List.mem_singleton.1 inside]
    rfl
  · rw [serving]
    rfl
  · have reports : (derived operator proxy site.store.snapshot site).1.reports =
        reportsOf proxy site.store.snapshot := reports_deriveEndpoints settled.complete site
    have stillFaultless : (derived operator proxy site.store.snapshot site).2.faults = [] :=
      faults_run_derive operator (deriveEndpoints proxy site.store.snapshot) faultless
    rw [reports, Reporter.writeReports, Program.steps_bind, Program.steps_done,
      List.append_nil] at written
    refine writeAll_reads (by exact stillFaultless) ?_ _ inner written
    intro report belongs
    rw [serve, store_derived settled.complete]
    exact settled.reported report belongs
  · rw [reconfiguring]
    rfl

theorem store_of_reads {step : Step WorldCall.Reply (Site ω)}
    (handled : handle operator step.call step.before = (step.reply, step.after))
    (reads : step.call.writes = false) : step.after.store = step.before.store := by
  obtain ⟨before, call, reply, after⟩ := step
  cases call with
  | operator call => exact store_of_handled handled (by simp)
  | serve endpoints => exact store_of_handled handled (by simp)
  | store call =>
      have answers : MemoryStore.Answers call before.store reply after.store :=
        answers_of_handled handled
      cases call with
      | getSchema | listSchemas | getMap | listMaps => exact answers.2
      | updateSchema | createMap | updateMap => cases reads

theorem store_pass_of_settled (faultless : site.faults = []) (settled : Settled proxy site.store) :
    (pass operator proxy site.store.snapshot site).store = site.store := by
  refine Program.holds_along (fun point : Site ω => point.store = site.store) rfl ?_ _
    (Program.end_mem_points _ _ _)
  intro step member same
  have reads := pass_reads faultless settled step member
  exact (store_of_reads (Program.handled_of_mem_steps member) reads).trans same

theorem schemas_createSkeleton (map : ResolverMap) (referenced : Bool) (site : Site ω) :
    ((createSkeleton map referenced).run handleStore site).2.store.schemas = site.store.schemas := by
  have kept : (handleStore (.createMap map) site).2.store.schemas = site.store.schemas := by
    obtain ⟨maps, -, created⟩ := handleStore_answers (.createMap map) site
    rw [created]
  rw [createSkeleton, Program.run_call]
  split
  · exact kept
  · split <;> exact kept

theorem bootstrap_refers {schema stored : Schema} {system : TypeSystem}
    (parsed : TypeSystem.parse schema.source = .ok system) (faultless : site.faults = [])
    (found : site.store.schemas.get? schema.name = some stored) :
    ∃ later, ((bootstrap schema).run handleStore site).2.store.schemas.get? schema.name =
      some later ∧ later.resolverMap ≠ "" := by
  have named : stored.name = schema.name := Catalog.name_of_get? found
  have got : handleStore (.getSchema schema.name) site = (.ok stored, site) := by
    rw [handleStore_eq_of_faultless _ faultless]
    simp only [MemoryStore.handle, MemoryStore.getIn, found]
  rw [bootstrap, parsed]
  simp only [Program.run_call, got]
  split
  · have own : site.store.schemas.get? stored.name = some stored := by rw [named, found]
    have updated := MemoryStore.updateIn_of_current
      { stored with resolverMap := generatedMapName schema.name } stored own rfl
    have written := handleStore_eq_of_faultless
      (.updateSchema { stored with resolverMap := generatedMapName schema.name }) faultless
    simp only [MemoryStore.handle, updated] at written
    simp only [skeleton, Program.run_call, written, schemas_createSkeleton]
    refine ⟨_, (Catalog.get?_put _ _ _).trans (if_pos named.symm), ?_⟩
    exact generatedMapName_ne_empty schema.name
  · rename_i referred
    split
    · rw [schemas_createSkeleton]
      exact ⟨stored, found, referred⟩
    · exact ⟨stored, found, referred⟩

theorem pass_refers {schema : Schema} (stored : site.store.schemas.get? schema.name = some schema)
    (bootstraps : schema.Bootstraps) (faultless : site.faults = []) :
    ∃ later, (pass operator proxy site.store.snapshot site).store.schemas.get? schema.name =
      some later ∧ later.resolverMap ≠ "" := by
  obtain ⟨valid, unnamed, system, parsed⟩ := bootstraps
  refine pass_establishes
    (fun store => ∃ before, store.schemas.get? schema.name = some before)
    (fun store => ∃ later, store.schemas.get? schema.name = some later ∧ later.resolverMap ≠ "")
    (MemoryStore.mem_schemas_snapshot.2 stored) valid unnamed ?_ ?_ ?_ faultless ⟨schema, stored⟩
  · rintro _ _ change ⟨before, present⟩
    obtain ⟨next, present, -⟩ := change.schema_kept present
    exact ⟨next, present⟩
  · rintro _ _ change ⟨later, present, referred⟩
    obtain ⟨next, present, -, changed⟩ := change.schema_kept present
    refine ⟨next, present, ?_⟩
    rcases changed with unchanged | ⟨empty, -⟩
    · rwa [unchanged]
    · exact absurd empty referred
  · rintro _ faultless ⟨before, present⟩
    exact bootstrap_refers parsed faultless present

theorem complete_pass (faultless : site.faults = []) :
    (pass operator proxy site.store.snapshot site).store.snapshot.Complete := by
  rintro later belongs ⟨valid, unnamed, system, parsed⟩
  have found := MemoryStore.mem_schemas_snapshot.1 belongs
  cases known : site.store.schemas.get? later.name with
  | none => cases (pass_adds_no_schema known).symm.trans found
  | some before =>
      obtain ⟨kept, stays, source, reference⟩ := pass_keeps_schema known
      cases stays.symm.trans found
      have named : before.name = later.name := Catalog.name_of_get? known
      have empty : before.resolverMap = "" := Classical.not_not.1 fun referred =>
        reference referred unnamed
      have bootstraps : before.Bootstraps := ⟨named ▸ valid, empty, system, source ▸ parsed⟩
      rw [← named] at known found
      obtain ⟨stored, present, referred⟩ := pass_refers known bootstraps faultless
      cases present.symm.trans found
      exact referred unnamed

/-- A store that a pass without failing calls leaves as it is is settled. -/
theorem settled_of_unchanged (faultless : site.faults = [])
    (unchanged : (pass operator proxy site.store.snapshot site).store = site.store) :
    Settled proxy site.store := by
  have complete : (pass operator proxy site.store.snapshot site).store.snapshot.Complete :=
    complete_pass faultless
  rw [unchanged] at complete
  have settled : Settled proxy (pass operator proxy site.store.snapshot site).store :=
    (settled_pass faultless complete).2
  rwa [unchanged] at settled

end Site

end GatewayControl
