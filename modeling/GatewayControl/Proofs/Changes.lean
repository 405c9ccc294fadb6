import GatewayControl.Proofs.Answers
import GatewayControl.Proofs.Passes

/-!
What passes change in a store. Every call of a pass leaves the store as it was or makes one of four
changes: it gives a schema without a reference the name of its generated map, it creates that map for
a schema that refers to it, or it writes the status of a schema or of a map. All that holds along
runs of passes is read off these four.
-/

namespace GatewayControl

/-- A change that a call of a pass over a snapshot may make to a store. -/
inductive Change (snapshot : Snapshot) : MemoryStore → MemoryStore → Prop
  | same (store : MemoryStore) : Change snapshot store store
  | refer {store : MemoryStore} {schema stored : Schema} :
      schema ∈ snapshot.schemas → ValidName schema.name → schema.resolverMap = "" →
      store.schemas.get? schema.name = some stored → stored.resolverMap = "" →
      Change snapshot store { store with
        schemas := store.schemas.put
          { stored with
            resolverMap := generatedMapName schema.name
            version := nextVersion stored.version } }
  | create {store : MemoryStore} {schema stored : Schema} {system : GraphQL.TypeSystem} :
      schema ∈ snapshot.schemas → ValidName schema.name → schema.resolverMap = "" →
      GraphQL.TypeSystem.parse schema.source = .ok system →
      store.schemas.get? schema.name = some stored →
      stored.resolverMap = generatedMapName schema.name →
      store.maps.get? (generatedMapName schema.name) = none →
      Change snapshot store { store with
        maps := store.maps.put
          { skeleton (generatedMapName schema.name) system with version := 1 } }
  | schemaStatus {store : MemoryStore} (schema : Schema) (status : Status) :
      store.schemas.get? schema.name = some schema →
      Change snapshot store { store with
        schemas := store.schemas.put { schema with status, version := nextVersion schema.version } }
  | mapStatus {store : MemoryStore} (map : ResolverMap) (status : Status) :
      store.maps.get? map.name = some map →
      Change snapshot store { store with
        maps := store.maps.put { map with status, version := nextVersion map.version } }

/-- What a pass over a snapshot may ask of a store, if it comes to the given reports. -/
inductive Asked (snapshot : Snapshot) (reports : List Report) (store : MemoryStore) :
    StoreCall → Prop
  | get (object : ObjectRef) : Asked snapshot reports store (.get object)
  | refer {schema stored : Schema} :
      schema ∈ snapshot.schemas → ValidName schema.name → schema.resolverMap = "" →
      store.schemas.get? schema.name = some stored → stored.resolverMap = "" →
      Asked snapshot reports store
        (.updateSchema { stored with resolverMap := generatedMapName schema.name })
  | create {schema stored : Schema} {system : GraphQL.TypeSystem} :
      schema ∈ snapshot.schemas → ValidName schema.name → schema.resolverMap = "" →
      GraphQL.TypeSystem.parse schema.source = .ok system →
      store.schemas.get? schema.name = some stored →
      stored.resolverMap = generatedMapName schema.name →
      Asked snapshot reports store (.createMap (skeleton (generatedMapName schema.name) system))
  | restate {report : Report} {item : StoredItem} :
      report ∈ reports → store.contents report.object = some item →
      Asked snapshot reports store (.update (item.withStatus report.status))

theorem Change.restate {snapshot : Snapshot} {store : MemoryStore} {item : StoredItem}
    (found : store.contents item.ref = some item) (status : Status) :
    Change snapshot store
      (store.put ((item.withStatus status).withVersion (nextVersion item.version))) := by
  cases item with
  | schema schema =>
      obtain ⟨_, present, same⟩ := Option.map_eq_some_iff.1 found
      cases same
      exact .schemaStatus schema status present
  | resolverMap map =>
      obtain ⟨_, present, same⟩ := Option.map_eq_some_iff.1 found
      cases same
      exact .mapStatus map status present

theorem Asked.change {snapshot : Snapshot} {reports : List Report} {store after : MemoryStore}
    {call : StoreCall} {reply : call.Reply} (asked : Asked snapshot reports store call)
    (answers : store.Answers call reply after) : Change snapshot store after := by
  cases asked with
  | get object =>
      rw [answers.of_get.1]
      exact .same _
  | @refer schema stored member valid unnamed found unreferred =>
      have named : stored.name = schema.name := Catalog.name_of_get? found
      obtain ⟨schemas, updates, rfl⟩ := answers
      rcases updates.cases with ⟨rfl, -⟩ | ⟨current, present, -, -, rfl⟩
      · exact .same _
      · obtain rfl : current = stored := by
          simpa [StoredObject.name, named, found, eq_comm] using present
        have change := Change.refer member valid unnamed found unreferred
        exact change
  | create member valid unnamed parsed found refers =>
      obtain ⟨maps, creates, rfl⟩ := answers
      rcases creates.cases with ⟨rfl, -⟩ | ⟨-, absent, -, rfl⟩
      · exact .same _
      · exact .create member valid unnamed parsed found refers absent
  | @restate report item _ found =>
      rcases answers.of_update with ⟨rfl, -⟩ | ⟨current, present, -, -, rfl⟩
      · exact .same _
      · have own := MemoryStore.ref_of_contents found
        rw [StoredItem.ref_withStatus, own, found, Option.some.injEq] at present
        subst present
        exact .restate (own ▸ found) _

namespace Site

variable {ω : Type}

theorem handleStore_answers (call : StoreCall) (site : Site ω) :
    MemoryStore.Answers call site.store (handleStore call site).1 (handleStore call site).2.store := by
  obtain ⟨store, faults, table, operator⟩ := site
  match faults with
  | some fault :: faults => exact .failed _ _ _
  | none :: faults => exact MemoryStore.handle_answers call store
  | [] => exact MemoryStore.handle_answers call store

theorem answers_of_handled {before after : Site ω} {call : StoreCall} {reply : call.Reply}
    (handled : handleStore call before = (reply, after)) :
    MemoryStore.Answers call before.store reply after.store := by
  have answers := handleStore_answers call before
  rw [handled] at answers
  exact answers

def Changes {Call : Type} {Reply : Call → Type} (snapshot : Snapshot)
    (steps : List (Step Reply (Site ω))) : Prop :=
  ∀ step ∈ steps, Change snapshot step.before.store step.after.store

def Asks {Call : Type} {Reply : Call → Type} (wrap : StoreCall → Call) (snapshot : Snapshot)
    (reports : List Report) (steps : List (Step Reply (Site ω))) : Prop :=
  ∀ step ∈ steps, ∀ call, step.call = wrap call → Asked snapshot reports step.before.store call

variable {snapshot : Snapshot} {reports : List Report}

section

variable {Call : Type} {Reply : Call → Type} {wrap : StoreCall → Call}

theorem Changes.keeps {handler : Handler Reply (Site ω)} {program : Program Reply α} {site : Site ω}
    (changes : Changes snapshot (program.steps handler site)) (holds : MemoryStore → Prop)
    (kept : ∀ {before after}, Change snapshot before after → holds before → holds after)
    (start : holds site.store) : holds (program.run handler site).2.store :=
  Program.holds_along (fun point : Site ω => holds point.store) start
    (fun step member => kept (changes step member)) _ (Program.end_mem_points _ _ _)

@[simp] theorem asks_nil : Asks wrap snapshot reports ([] : List (Step Reply (Site ω))) :=
  fun _ member => (List.not_mem_nil member).elim

@[simp] theorem asks_append {steps more : List (Step Reply (Site ω))} :
    Asks wrap snapshot reports (steps ++ more) ↔
      Asks wrap snapshot reports steps ∧ Asks wrap snapshot reports more :=
  List.forall_mem_append

theorem asks_cons_other {step : Step Reply (Site ω)} {steps : List (Step Reply (Site ω))}
    (other : ∀ call, step.call ≠ wrap call) :
    Asks wrap snapshot reports (step :: steps) ↔ Asks wrap snapshot reports steps := by
  rw [Asks, List.forall_mem_cons]
  exact and_iff_right fun call same => absurd same (other call)

@[simp] theorem asks_cons {step : Step StoreCall.Reply (Site ω)}
    {steps : List (Step StoreCall.Reply (Site ω))} :
    Asks id snapshot reports (step :: steps) ↔
      Asked snapshot reports step.before.store step.call ∧ Asks id snapshot reports steps := by
  rw [Asks, List.forall_mem_cons]
  refine and_congr_left fun _ => ⟨fun asked => asked step.call rfl, fun asked call same => ?_⟩
  rw [← show step.call = call from same]
  exact asked

theorem Asks.embed {OuterReply : Call → Type}
    {steps : List (Step (fun call => OuterReply (wrap call)) (Site ω))}
    (injective : ∀ {one other}, wrap one = wrap other → one = other)
    (asks : Asks id snapshot reports steps) :
    Asks wrap snapshot reports (steps.map (Step.embed wrap)) := by
  intro step member call same
  obtain ⟨inner, belongs, rfl⟩ := List.mem_map.1 member
  exact asks inner belongs call (injective same)

end

/-! What is asked for a schema. -/

theorem createSkeleton_asks {schema stored : Schema} {system : GraphQL.TypeSystem}
    {referenced : Bool} {site : Site ω} (member : schema ∈ snapshot.schemas)
    (valid : ValidName schema.name) (unnamed : schema.resolverMap = "")
    (parsed : GraphQL.TypeSystem.parse schema.source = .ok system)
    (found : site.store.schemas.get? schema.name = some stored)
    (refers : stored.resolverMap = generatedMapName schema.name) :
    Asks id snapshot reports ((createSkeleton (skeleton (generatedMapName schema.name) system)
      referenced).steps handleStore site) := by
  rw [createSkeleton, Program.steps_call, asks_cons]
  constructor
  · exact .create member valid unnamed parsed found refers
  · split
    · exact asks_nil
    · split <;> exact asks_nil

theorem bootstrap_asks {schema : Schema} (member : schema ∈ snapshot.schemas)
    (valid : ValidName schema.name) (unnamed : schema.resolverMap = "") (site : Site ω) :
    Asks id snapshot reports ((bootstrap schema).steps handleStore site) := by
  cases parsed : GraphQL.TypeSystem.parse schema.source with
  | error fault =>
      rw [bootstrap, parsed]
      exact asks_nil
  | ok system =>
      rw [bootstrap, parsed]
      obtain ⟨got, same⟩ := handleStore_answers (.getSchema schema.name) site
      simp only [Program.steps_call, asks_cons]
      refine ⟨.get ⟨.schema, _⟩, ?_⟩
      split
      · exact asks_nil
      · rename_i stored reply
        have found := got stored reply
        split
        · rename_i unreferred
          have named : stored.name = schema.name := Catalog.name_of_get? found
          simp only [Program.steps_call, asks_cons, same]
          refine ⟨.refer member valid unnamed found unreferred, ?_⟩
          obtain ⟨schemas, updates, after⟩ := handleStore_answers (.updateSchema { stored with
            resolverMap := generatedMapName schema.name })
            (handleStore (.getSchema schema.name) site).2
          rcases updates.cases with ⟨-, fault, failed⟩ | ⟨current, -, -, replied, rfl⟩
          · simp only [skeleton, failed]
            exact asks_nil
          · rw [same] at after
            have pointed : (site.store.schemas.put { stored with
                resolverMap := generatedMapName schema.name
                version := nextVersion current.version }).get? schema.name = some { stored with
                  resolverMap := generatedMapName schema.name
                  version := nextVersion current.version } :=
              (Catalog.get?_put _ _ _).trans (if_pos named.symm)
            simp only [skeleton, replied]
            exact createSkeleton_asks member valid unnamed parsed (by rw [after]; exact pointed) rfl
        · split
          · rename_i refers
            exact createSkeleton_asks member valid unnamed parsed (by rw [same]; exact found) refers
          · exact asks_nil

theorem handleSchema_asks (operator : OperatorHandler ω) (proxy : Proxy) {schema : Schema}
    (member : schema ∈ snapshot.schemas) (site : Site ω) :
    Asks DeriveCall.store snapshot reports ((handleSchema proxy snapshot schema).steps
      (deriveHandler handleStore (handleOperator operator)) site) := by
  rcases handleSchema_cases proxy snapshot schema with
    ⟨fault, -, program⟩ | ⟨valid, unnamed, program⟩ | ⟨-, -, -, program⟩ | ⟨map, -, program⟩
  · simp only [program, Program.steps_done, asks_nil]
  · rw [program, Program.steps_bind, Program.steps_embed, asks_append]
    exact ⟨Asks.embed (fun same => DeriveCall.store.inj same)
      (bootstrap_asks member valid unnamed site), asks_nil⟩
  · simp only [program, Program.steps_done, asks_nil]
  · rcases buildEndpoint_cases proxy schema map with
      ⟨fault, -, built⟩ | ⟨system, fault, -, -, built⟩ | ⟨system, resolvers, -, -, built⟩
    · simp only [program, built, Program.steps_done, asks_nil]
    · simp only [program, built, Program.steps_done, asks_nil]
    · have other : ∀ call, DeriveCall.register map ≠ .store call := fun call same => nomatch same
      rw [program, built, Program.steps_call]
      exact (asks_cons_other other).2 asks_nil

theorem handleSchemas_asks (operator : OperatorHandler ω) (proxy : Proxy)
    {schemas : List Schema} (members : ∀ schema ∈ schemas, schema ∈ snapshot.schemas)
    (site : Site ω) :
    Asks DeriveCall.store snapshot reports ((handleSchemas proxy snapshot schemas).steps
      (deriveHandler handleStore (handleOperator operator)) site) := by
  induction schemas generalizing site with
  | nil => exact asks_nil
  | cons schema schemas ih =>
      simp only [handleSchemas, Program.steps_bind, Program.steps_done, asks_append, asks_nil,
        and_true]
      exact ⟨handleSchema_asks operator proxy (members _ List.mem_cons_self) site,
        ih (fun other later => members other (List.mem_cons_of_mem _ later)) _⟩

/-! What is asked for the reports. -/

theorem writeReport_asks {report : Report} (member : report ∈ reports) (site : Site ω) :
    Asks id snapshot reports ((Reporter.writeReport report).steps handleStore site) := by
  obtain ⟨same, got⟩ := (handleStore_answers (.get report.object) site).of_get
  simp only [Reporter.writeReport, Program.steps_call, asks_cons]
  refine ⟨.get _, ?_⟩
  split
  · exact asks_nil
  · rename_i item reply
    split
    · exact asks_nil
    · simp only [Program.steps_call, asks_cons, same]
      refine ⟨.restate member (got item reply), ?_⟩
      split <;> exact asks_nil

theorem writeAll_asks {written : List Report} (members : ∀ report ∈ written, report ∈ reports)
    (failures : Failures) (site : Site ω) :
    Asks id snapshot reports ((Reporter.writeAll failures written).steps handleStore site) := by
  induction written generalizing failures site with
  | nil => exact asks_nil
  | cons report written ih =>
      rw [Reporter.writeAll, Program.steps_bind, asks_append]
      exact ⟨writeReport_asks (members _ List.mem_cons_self) site,
        ih (fun other later => members other (List.mem_cons_of_mem _ later)) _ _⟩

theorem writeReports_asks (reports : List Report) (site : Site ω) :
    Asks id snapshot reports ((Reporter.writeReports reports).steps handleStore site) := by
  rw [Reporter.writeReports, Program.steps_bind, asks_append]
  exact ⟨writeAll_asks (fun _ member => member) _ site, asks_nil⟩

theorem writeReports_changes (reports : List Report) (site : Site ω) :
    Changes snapshot ((Reporter.writeReports reports).steps handleStore site) := by
  intro step member
  have asked : Asked snapshot reports _ _ := writeReports_asks reports site step member _ rfl
  exact asked.change (answers_of_handled (Program.handled_of_mem_steps member))

/-! What becomes of the store in a pass. -/

theorem passCalls_asks (operator : OperatorHandler ω) (proxy : Proxy) (snapshot : Snapshot)
    (site : Site ω) :
    Asks WorldCall.store snapshot (derived operator proxy snapshot site).1.reports
      ((passCalls proxy snapshot).steps (handle operator) site) := by
  intro step member call same
  rcases mem_steps_passCalls operator proxy member with
    ⟨⟨before, inner, reply, after⟩, derived, inside⟩ | ⟨endpoints, serving⟩ |
    ⟨inner, written, rfl⟩ | reconfiguring
  · rw [deriveEndpoints, Program.steps_bind, List.mem_append] at derived
    cases inner with
    | store inner =>
        rw [List.mem_singleton.1 inside] at same ⊢
        cases same
        rcases derived with derived | derived
        · exact handleSchemas_asks operator proxy (fun _ member => member) site _ derived _ rfl
        · exact (List.not_mem_nil derived).elim
    | register map =>
        rw [List.mem_singleton.1 inside] at same
        cases same
  · rw [serving] at same
    cases same
  · exact writeReports_asks _ _ inner written call (WorldCall.store.inj same)
  · rw [reconfiguring] at same
    cases same

theorem change_of_derive {operator : OperatorHandler ω} {step : Step DeriveCall.Reply (Site ω)}
    (handled : deriveHandler handleStore (handleOperator operator) step.call step.before =
      (step.reply, step.after))
    (asked : ∀ call, step.call = .store call → Asked snapshot reports step.before.store call) :
    Change snapshot step.before.store step.after.store := by
  obtain ⟨before, call, reply, after⟩ := step
  cases call with
  | store call => exact (asked call rfl).change (answers_of_handled handled)
  | register map =>
      rw [show after = _ from (congrArg Prod.snd handled).symm]
      exact .same _

theorem handleSchema_changes (operator : OperatorHandler ω) (proxy : Proxy) {schema : Schema}
    (member : schema ∈ snapshot.schemas) (site : Site ω) :
    Changes snapshot ((handleSchema proxy snapshot schema).steps
      (deriveHandler handleStore (handleOperator operator)) site) := by
  intro step belongs
  have asks : Asks DeriveCall.store snapshot [] _ := handleSchema_asks operator proxy member site
  exact change_of_derive (Program.handled_of_mem_steps belongs) (asks step belongs)

theorem handleSchemas_changes (operator : OperatorHandler ω) (proxy : Proxy)
    {schemas : List Schema} (members : ∀ schema ∈ schemas, schema ∈ snapshot.schemas)
    (site : Site ω) :
    Changes snapshot ((handleSchemas proxy snapshot schemas).steps
      (deriveHandler handleStore (handleOperator operator)) site) := by
  intro step belongs
  have asks : Asks DeriveCall.store snapshot [] _ := handleSchemas_asks operator proxy members site
  exact change_of_derive (Program.handled_of_mem_steps belongs) (asks step belongs)

theorem answers_of_pass {operator : OperatorHandler ω} {proxy : Proxy} {site : Site ω}
    {step : Step WorldCall.Reply (Site ω)}
    (member : step ∈ (passCalls proxy snapshot).steps (handle operator) site) :
    (∃ before call reply after, step = ⟨before, .store call, reply, after⟩ ∧
      Asked snapshot (derived operator proxy snapshot site).1.reports before.store call ∧
      before.store.Answers call reply after.store) ∨
    (∀ call, step.call ≠ .store call) ∧ step.after.store = step.before.store := by
  have handled := Program.handled_of_mem_steps member
  have asked := passCalls_asks operator proxy snapshot site step member
  obtain ⟨before, call, reply, after⟩ := step
  cases call with
  | store call =>
      exact .inl ⟨before, call, reply, after, rfl, asked call rfl, answers_of_handled handled⟩
  | operator call =>
      have other : ∀ own : StoreCall, WorldCall.operator call ≠ .store own := fun _ same => nomatch same
      exact .inr ⟨other, store_of_handled handled other⟩
  | serve endpoints =>
      have other : ∀ own : StoreCall, WorldCall.serve endpoints ≠ .store own := fun _ same => nomatch same
      exact .inr ⟨other, store_of_handled handled other⟩

theorem passCalls_changes (operator : OperatorHandler ω) (proxy : Proxy) (snapshot : Snapshot)
    (site : Site ω) :
    Changes snapshot ((passCalls proxy snapshot).steps (Site.handle operator) site) := by
  intro step member
  rcases answers_of_pass member with ⟨before, call, reply, after, rfl, asked, answers⟩ | ⟨-, same⟩
  · exact asked.change answers
  · rw [same]
    exact .same _

theorem passes_changes (operator : OperatorHandler ω) (proxy : Proxy) {snapshots : List Snapshot}
    {site : Site ω} {step : Step WorldCall.Reply (Site ω)}
    (member : step ∈ (passes proxy snapshots).steps (Site.handle operator) site) :
    ∃ snapshot ∈ snapshots, Change snapshot step.before.store step.after.store := by
  induction snapshots generalizing site with
  | nil => exact (List.not_mem_nil member).elim
  | cons snapshot snapshots ih =>
      rw [passes, Program.steps_bind, List.mem_append] at member
      rcases member with now | later
      · exact ⟨snapshot, List.mem_cons_self, passCalls_changes operator proxy snapshot site step now⟩
      · obtain ⟨other, belongs, change⟩ := ih later
        exact ⟨other, List.mem_cons_of_mem _ belongs, change⟩

end Site

end GatewayControl
