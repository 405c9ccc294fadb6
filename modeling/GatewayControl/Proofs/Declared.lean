import GatewayControl.Proofs.Derivation
import GatewayControl.Proofs.Routes

/-!
What a pass derives from a snapshot when there is nothing to generate. It is a matter of what the
stored objects declare, and not of their versions and statuses, so writing statuses does not change
what the next pass derives.
-/

namespace GatewayControl

open GraphQL (TypeSystem)

variable {σ : Type}

def Schema.declared (schema : Schema) : Schema := { schema with version := 0, status := {} }

def ResolverMap.declared (map : ResolverMap) : ResolverMap := { map with version := 0, status := {} }

/-- What a snapshot says apart from versions and statuses. -/
def Snapshot.declared (snapshot : Snapshot) : Snapshot where
  schemas := snapshot.schemas.map Schema.declared
  maps := snapshot.maps.map ResolverMap.declared

/-- Whether a schema is given a generated map by a pass that finds it as it is. -/
def Schema.Bootstraps (schema : Schema) : Prop :=
  ValidName schema.name ∧ schema.resolverMap = "" ∧
    ∃ system, TypeSystem.parse schema.source = .ok system

def verdict? (snapshot : Snapshot) (schema : Schema) : Option Failure :=
  match nameFault schema.name with
  | some fault => some (.invalidName fault.message)
  | none =>
    if schema.resolverMap ≠ "" ∧ snapshot.map? schema.resolverMap = none then
      some (.mapNotFound schema.name schema.resolverMap)
    else
      match TypeSystem.parse schema.source with
      | .error fault => some (.schemaParse fault.message)
      | .ok _ => none

def reportsOf (proxy : Proxy) (snapshot : Snapshot) : List Report :=
  snapshot.schemas.map (fun schema => ⟨⟨.schema, schema.name⟩, verdict? snapshot schema⟩) ++
    (failingMaps proxy snapshot).map (failingMapReport proxy snapshot)

section

variable {handler : Handler DeriveCall.Reply σ} {proxy : Proxy} {snapshot : Snapshot}
  {schema : Schema}

theorem bootstrap_of_not_bootstraps (valid : ValidName schema.name) (unnamed : schema.resolverMap = "")
    (complete : ¬schema.Bootstraps) :
    ∃ fault, TypeSystem.parse schema.source = .error fault ∧
      bootstrap schema = .done (.error (.schemaParse fault.message)) := by
  cases parsed : TypeSystem.parse schema.source with
  | ok system => exact absurd ⟨valid, unnamed, system, parsed⟩ complete
  | error fault => exact ⟨fault, rfl, by rw [bootstrap, parsed]⟩

theorem schemaFailure_of_not_bootstraps (complete : ¬schema.Bootstraps) (state : σ) :
    (outcomeIn handler proxy snapshot schema state).schemaFailure = verdict? snapshot schema := by
  rw [verdict?]
  rcases handleSchema_cases proxy snapshot schema with
    ⟨fault, invalid, program⟩ | ⟨valid, unnamed, program⟩ | ⟨valid, named, missing, program⟩ |
      ⟨map, mapped, program⟩
  · simp [outcomeIn, program, invalid]
  · obtain ⟨fault, parsed, failed⟩ := bootstrap_of_not_bootstraps valid unnamed complete
    have noFault : nameFault schema.name = none := valid
    rw [outcomeIn, program, failed]
    simp [noFault, unnamed, parsed, Program.embed, Program.bind, SchemaOutcome.ofBootstrap]
  · have noFault : nameFault schema.name = none := valid
    simp [outcomeIn, program, noFault, named, missing]
  · obtain ⟨valid, named, found⟩ := Snapshot.mapOf?_eq_some_iff.1 mapped
    have noFault : nameFault schema.name = none := valid
    rw [outcomeIn, program]
    rcases buildEndpoint_cases proxy schema map with
      ⟨fault, parsed, built⟩ | ⟨system, fault, parsed, -, built⟩ | ⟨system, resolvers, parsed, -, built⟩
    · simp [built, noFault, found, parsed]
    · simp [built, noFault, found, parsed]
    · simp [built, noFault, found, parsed]

/-- Without a schema to generate a map for, the reports are a matter of the snapshot alone. -/
theorem reports_deriveEndpoints (complete : ∀ schema ∈ snapshot.schemas, ¬schema.Bootstraps)
    (state : σ) :
    ((deriveEndpoints proxy snapshot).run handler state).1.reports = reportsOf proxy snapshot := by
  have schemas : ∀ (schemas : List Schema) (state : σ), (∀ schema ∈ schemas, ¬schema.Bootstraps) →
      (outcomesFrom handler proxy snapshot schemas state).map (fun outcome =>
        (⟨⟨.schema, outcome.1⟩, outcome.2.schemaFailure⟩ : Report)) =
        schemas.map fun schema => ⟨⟨.schema, schema.name⟩, verdict? snapshot schema⟩ := by
    intro schemas
    induction schemas with
    | nil => exact fun _ _ => rfl
    | cons schema schemas ih =>
        intro state complete
        obtain ⟨first, rest⟩ := List.forall_mem_cons.1 complete
        rw [outcomesFrom_cons, List.map_cons, List.map_cons, ih _ rest,
          schemaFailure_of_not_bootstraps first]
  rw [run_deriveEndpoints, reportsOf, ← mapReports_eq handler state, ← schemas _ state complete]
  rfl

theorem registers_handleSchema (complete : ¬schema.Bootstraps) (state : σ) :
    ∀ step ∈ (handleSchema proxy snapshot schema).steps handler state,
      ∃ map, step.call = .register map := by
  rcases handleSchema_cases proxy snapshot schema with
    ⟨fault, -, program⟩ | ⟨valid, unnamed, program⟩ | ⟨-, -, -, program⟩ | ⟨map, -, program⟩
  · simp [program]
  · obtain ⟨fault, -, failed⟩ := bootstrap_of_not_bootstraps valid unnamed complete
    simp [program, failed, Program.embed, Program.bind]
  · simp [program]
  · rcases buildEndpoint_cases proxy schema map with
      ⟨fault, -, built⟩ | ⟨system, fault, -, -, built⟩ | ⟨system, resolvers, -, -, built⟩
    · simp [program, built]
    · simp [program, built]
    · simp [program, built]

/-- Nor does deriving call the store then. -/
theorem registers_deriveEndpoints (complete : ∀ schema ∈ snapshot.schemas, ¬schema.Bootstraps)
    (state : σ) :
    ∀ step ∈ (deriveEndpoints proxy snapshot).steps handler state,
      ∃ map, step.call = .register map := by
  have schemas : ∀ (schemas : List Schema) (state : σ), (∀ schema ∈ schemas, ¬schema.Bootstraps) →
      ∀ step ∈ (handleSchemas proxy snapshot schemas).steps handler state,
        ∃ map, step.call = .register map := by
    intro schemas
    induction schemas with
    | nil => simp [handleSchemas]
    | cons schema schemas ih =>
        intro state complete step member
        obtain ⟨first, rest⟩ := List.forall_mem_cons.1 complete
        simp only [handleSchemas, Program.steps_bind, Program.steps_done, List.append_nil,
          List.mem_append] at member
        rcases member with here | later
        · exact registers_handleSchema first state step here
        · exact ih _ rest step later
  simp only [deriveEndpoints, Program.steps_bind, Program.steps_done, List.append_nil]
  exact schemas _ state complete

end

/-! What is declared decides. -/

section

variable {proxy : Proxy} {snapshot : Snapshot} {schema : Schema}

theorem map?_declared (name : String) :
    snapshot.declared.map? name = (snapshot.map? name).map ResolverMap.declared := by
  rw [Snapshot.map?, Snapshot.declared, List.find?_map]
  rfl

theorem mapOf?_declared :
    snapshot.declared.mapOf? schema.declared = (snapshot.mapOf? schema).map ResolverMap.declared := by
  simp only [Snapshot.mapOf?, map?_declared, Schema.declared]
  split <;> rfl

theorem endpointOf?_declared :
    endpointOf? proxy snapshot.declared schema.declared = endpointOf? proxy snapshot schema := by
  rw [endpointOf?, mapOf?_declared, endpointOf?]
  cases snapshot.mapOf? schema <;> rfl

theorem servedMap?_declared :
    servedMap? proxy snapshot.declared schema.declared =
      (servedMap? proxy snapshot schema).map ResolverMap.declared := by
  rw [servedMap?, mapOf?_declared, servedMap?]
  cases snapshot.mapOf? schema with
  | none => rfl
  | some map =>
      simp only [Option.map_some, Option.bind_eq_bind, Option.bind_some, Schema.declared]
      cases (TypeSystem.parse schema.source).toOption with
      | none => rfl
      | some system =>
          have same : proxy.build system map.declared = proxy.build system map := rfl
          simp only [Option.bind_some, same]
          cases (proxy.build system map).toOption <;> rfl

theorem buildFault?_declared :
    buildFault? proxy snapshot.declared schema.declared = buildFault? proxy snapshot schema := by
  rw [buildFault?, mapOf?_declared, buildFault?]
  cases snapshot.mapOf? schema <;> rfl

theorem verdict?_declared : verdict? snapshot.declared schema.declared = verdict? snapshot schema := by
  simp only [verdict?, map?_declared, Option.map_eq_none_iff]
  rfl

theorem schemas_declared : snapshot.declared.schemas = snapshot.schemas.map Schema.declared := rfl

theorem failingMaps_declared : failingMaps proxy snapshot.declared = failingMaps proxy snapshot := by
  rw [failingMaps, schemas_declared, List.filter_map, List.map_map]
  simp only [Function.comp_def, buildFault?_declared]
  rfl

theorem failingMapReport_declared (map : String) :
    failingMapReport proxy snapshot.declared map = failingMapReport proxy snapshot map := by
  have causes : buildCauses proxy snapshot.declared map = buildCauses proxy snapshot map := by
    rw [buildCauses, schemas_declared, List.filter_map, List.filterMap_map]
    simp only [Function.comp_def, buildFault?_declared]
    rfl
  rw [failingMapReport, causes, failingMapReport]

theorem reportsOf_declared : reportsOf proxy snapshot.declared = reportsOf proxy snapshot := by
  rw [reportsOf, reportsOf, failingMaps_declared, funext failingMapReport_declared,
    schemas_declared, List.map_map]
  simp only [Function.comp_def, verdict?_declared]
  rfl

theorem endpoints_declared :
    snapshot.declared.schemas.filterMap (endpointOf? proxy snapshot.declared) =
      snapshot.schemas.filterMap (endpointOf? proxy snapshot) := by
  rw [schemas_declared, List.filterMap_map]
  simp only [Function.comp_def, endpointOf?_declared]

theorem servedMaps_declared :
    snapshot.declared.schemas.filterMap (servedMap? proxy snapshot.declared) =
      (snapshot.schemas.filterMap (servedMap? proxy snapshot)).map ResolverMap.declared := by
  rw [schemas_declared, List.filterMap_map, List.map_filterMap]
  simp only [Function.comp_def, servedMap?_declared]

end

end GatewayControl
