import GatewayControl.Proofs.Changes
import GatewayControl.Proofs.Declared

/-!
The calls of a derivation, schema by schema. The store is called for the schemas that are given a
generated map and for no others, and what is asked of it concerns that one schema.
-/

namespace GatewayControl

open GraphQL (TypeSystem)

def Schema.referring (schema : Schema) : Schema :=
  { schema with resolverMap := generatedMapName schema.name, version := nextVersion schema.version }

def Schema.generated (schema : Schema) (system : TypeSystem) : ResolverMap :=
  { skeleton (generatedMapName schema.name) system with version := 1 }

def Snapshot.only (snapshot : Snapshot) (schema : Schema) : Snapshot :=
  { snapshot with schemas := [schema] }

section

variable {ω : Type} {operator : OperatorHandler ω} {proxy : Proxy} {snapshot : Snapshot}
  {site : Site ω}

/-- The steps of handling some schemas of a snapshot: calls of the store for one of them, which is
to be given a generated map, and registrations, which leave the store alone. -/
inductive Step.Handles (snapshot : Snapshot) (schemas : List Schema) :
    Step DeriveCall.Reply (Site ω) → Prop
  | stores {schema : Schema} {before after : Site ω} {call : StoreCall} {reply : call.Reply} :
      schema ∈ schemas → schema.Bootstraps → Asked (snapshot.only schema) [] before.store call →
      before.store.Answers call reply after.store →
      Handles snapshot schemas ⟨before, .store call, reply, after⟩
  | registers {before after : Site ω} {map : ResolverMap}
      {reply : DeriveCall.Reply (.register map)} :
      after.store = before.store → Handles snapshot schemas ⟨before, .register map, reply, after⟩

namespace Site

theorem bootstrap_of_handleSchemas {schemas : List Schema} {step : Step DeriveCall.Reply (Site ω)}
    (member : step ∈ (handleSchemas proxy snapshot schemas).steps
      (deriveHandler handleStore (handleOperator operator)) site)
    {call : StoreCall} (stores : step.call = .store call) :
    ∃ schema ∈ schemas, schema.Bootstraps ∧ ∃ start,
      ∃ inner ∈ (bootstrap schema).steps handleStore start, step = inner.embed DeriveCall.store := by
  induction schemas generalizing site with
  | nil => exact (List.not_mem_nil member).elim
  | cons schema schemas ih =>
      simp only [handleSchemas, Program.steps_bind, Program.steps_done, List.append_nil,
        List.mem_append] at member
      rcases member with here | later
      · by_cases bootstraps : schema.Bootstraps
        · have valid : nameFault schema.name = none := bootstraps.1
          rw [handleSchema, valid] at here
          simp only [bootstraps.2.1, if_true, Program.steps_bind, Program.steps_embed,
            Program.steps_done, List.append_nil] at here
          obtain ⟨inner, belongs, rfl⟩ := List.mem_map.1 here
          exact ⟨schema, List.mem_cons_self, bootstraps, site, inner, belongs, rfl⟩
        · obtain ⟨map, registers⟩ := registers_handleSchema bootstraps site step here
          cases stores.symm.trans registers
      · obtain ⟨other, belongs, rest⟩ := ih later
        exact ⟨other, List.mem_cons_of_mem _ belongs, rest⟩

theorem asked_of_handleSchemas {schemas : List Schema} {step : Step DeriveCall.Reply (Site ω)}
    (member : step ∈ (handleSchemas proxy snapshot schemas).steps
      (deriveHandler handleStore (handleOperator operator)) site) :
    ∀ call, step.call = .store call → ∃ schema ∈ schemas, schema.Bootstraps ∧
      Asked (snapshot.only schema) [] step.before.store call := by
  intro call stores
  obtain ⟨schema, belongs, bootstraps, start, inner, made, rfl⟩ :=
    bootstrap_of_handleSchemas member stores
  refine ⟨schema, belongs, bootstraps, ?_⟩
  cases stores
  exact bootstrap_asks List.mem_cons_self bootstraps.1 bootstraps.2.1 start inner made _ rfl

theorem handles_of_handleSchemas {schemas : List Schema} {step : Step DeriveCall.Reply (Site ω)}
    (member : step ∈ (handleSchemas proxy snapshot schemas).steps
      (deriveHandler handleStore (handleOperator operator)) site) :
    step.Handles snapshot schemas := by
  have handled := Program.handled_of_mem_steps member
  have asked := asked_of_handleSchemas member
  obtain ⟨before, call, reply, after⟩ := step
  cases call with
  | store call =>
      obtain ⟨schema, belongs, bootstraps, asked⟩ := asked call rfl
      exact .stores belongs bootstraps asked (answers_of_handled handled)
  | register map => exact .registers (congrArg (fun result => result.2.store) handled).symm

theorem steps_deriveEndpoints :
    (deriveEndpoints proxy snapshot).steps (deriveHandler handleStore (handleOperator operator)) site =
      (handleSchemas proxy snapshot snapshot.schemas).steps
        (deriveHandler handleStore (handleOperator operator)) site := by
  simp only [deriveEndpoints, Program.steps_bind, Program.steps_done, List.append_nil]

theorem run_handleSchema_of_bootstraps {schema : Schema} (bootstraps : schema.Bootstraps)
    (site : Site ω) :
    ((handleSchema proxy snapshot schema).run
      (deriveHandler handleStore (handleOperator operator)) site).2 =
      ((bootstrap schema).run handleStore site).2 := by
  obtain ⟨valid, unnamed, -⟩ := bootstraps
  have noFault : nameFault schema.name = none := valid
  rw [handleSchema, noFault]
  simp only [unnamed, if_true, Program.run_bind, Program.run_done, Program.run_embed]
  rfl

theorem derived_eq_handleSchemas :
    (derived operator proxy snapshot site).2 =
      ((handleSchemas proxy snapshot snapshot.schemas).run
        (deriveHandler handleStore (handleOperator operator)) site).2 := by
  simp only [derived, deriveEndpoints, Program.run_bind, Program.run_done]

end Site

end

end GatewayControl
