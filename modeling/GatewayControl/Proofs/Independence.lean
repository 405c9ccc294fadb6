import GatewayControl.Proofs.Bootstrapping
import GatewayControl.Proofs.Names
import GatewayControl.Proofs.Settled

/-!
The schemas of a snapshot, each on its own. Bootstraps read and write the store one after the other,
but each of them only the schema that it is for and the map that is generated for it. So what comes
of a schema is what would come of it if it were the only one.
-/

namespace GatewayControl

open GraphQL (TypeSystem)

/-! Stores that hold the same are the same. -/

theorem Catalog.eq_of_get? {α : Type} [StoredObject α] {left right : Catalog α}
    (same : ∀ name, left.get? name = right.get? name) : left = right := by
  obtain ⟨leftObjects, _⟩ := left
  obtain ⟨rightObjects, _⟩ := right
  obtain rfl : leftObjects = rightObjects := NameMap.eq_of_get? same
  rfl

theorem MemoryStore.eq_of_get? {left right : MemoryStore}
    (schemas : ∀ name, left.schemas.get? name = right.schemas.get? name)
    (maps : ∀ name, left.maps.get? name = right.maps.get? name) : left = right := by
  obtain ⟨leftSchemas, leftMaps⟩ := left
  obtain ⟨rightSchemas, rightMaps⟩ := right
  obtain rfl : leftSchemas = rightSchemas := Catalog.eq_of_get? schemas
  obtain rfl : leftMaps = rightMaps := Catalog.eq_of_get? maps
  rfl

structure MemoryStore.AgreeAt (name : String) (left right : MemoryStore) : Prop where
  schema : left.schemas.get? name = right.schemas.get? name
  map : left.maps.get? (generatedMapName name) = right.maps.get? (generatedMapName name)

namespace MemoryStore.AgreeAt

variable {name : String} {one two three : MemoryStore}

theorem refl (name : String) (store : MemoryStore) : AgreeAt name store store := ⟨rfl, rfl⟩

theorem symm (agree : AgreeAt name one two) : AgreeAt name two one :=
  ⟨agree.schema.symm, agree.map.symm⟩

theorem trans (first : AgreeAt name one two) (second : AgreeAt name two three) :
    AgreeAt name one three :=
  ⟨first.schema.trans second.schema, first.map.trans second.map⟩

end MemoryStore.AgreeAt

section

variable {snapshot : Snapshot} {schema : Schema} {store after : MemoryStore} {call : StoreCall}
  {reply : call.Reply} {name : String}

theorem Asked.leaves (asked : Asked (snapshot.only schema) [] store call)
    (answers : store.Answers call reply after) :
    (∀ name, name ≠ schema.name → after.schemas.get? name = store.schemas.get? name) ∧
      ∀ name, name ≠ generatedMapName schema.name → after.maps.get? name = store.maps.get? name := by
  cases asked with
  | get object =>
      rw [answers.of_get.1]
      exact ⟨fun _ _ => rfl, fun _ _ => rfl⟩
  | @refer asking stored member valid unnamed found unreferred =>
      obtain rfl := List.mem_singleton.1 member
      have named : stored.name = asking.name := Catalog.name_of_get? found
      obtain ⟨schemas, updates, rfl⟩ := answers
      rcases updates.cases with ⟨rfl, -⟩ | ⟨current, -, -, -, rfl⟩
      · exact ⟨fun _ _ => rfl, fun _ _ => rfl⟩
      · refine ⟨fun name different => Catalog.get?_put_of_ne ?_, fun _ _ => rfl⟩
        exact fun same => different (Eq.trans same named)
  | @create asking stored system member valid unnamed parsed found refers =>
      obtain rfl := List.mem_singleton.1 member
      obtain ⟨maps, creates, rfl⟩ := answers
      rcases creates.cases with ⟨rfl, -⟩ | ⟨-, -, -, rfl⟩
      · exact ⟨fun _ _ => rfl, fun _ _ => rfl⟩
      · exact ⟨fun _ _ => rfl, fun name different => Catalog.get?_put_of_ne different⟩
  | restate reported => exact (List.not_mem_nil reported).elim

end

/-! A bootstrap sees one schema and its map. -/

def StoreCall.Concerns (name : String) : StoreCall → Prop
  | getSchema other => other = name
  | updateSchema schema => schema.name = name
  | createMap map => map.name = generatedMapName name
  | listSchemas | getMap _ | updateMap _ | listMaps => False

theorem MemoryStore.AgreeAt.handle {name : String} {call : StoreCall} {left right : MemoryStore}
    (agree : AgreeAt name left right) (concerns : call.Concerns name) :
    (MemoryStore.handle call right).1 = (MemoryStore.handle call left).1 ∧
      AgreeAt name (MemoryStore.handle call left).2 (MemoryStore.handle call right).2 := by
  cases call with
  | getSchema other =>
      subst concerns
      simp only [MemoryStore.handle, MemoryStore.getIn, agree.schema]
      exact ⟨trivial, agree⟩
  | updateSchema schema =>
      obtain rfl : schema.name = name := concerns
      have same : left.schemas.get? (StoredObject.name schema) =
        right.schemas.get? (StoredObject.name schema) := agree.schema
      simp only [MemoryStore.handle, MemoryStore.updateIn, same]
      split
      · exact ⟨rfl, agree⟩
      · split
        · exact ⟨rfl, Catalog.get?_put_self.trans Catalog.get?_put_self.symm, agree.map⟩
        · exact ⟨rfl, agree⟩
  | createMap map =>
      have named : StoredObject.name map = generatedMapName name := concerns
      simp only [MemoryStore.handle, MemoryStore.createIn, named, agree.map]
      split
      · exact ⟨rfl, agree⟩
      · split
        · exact ⟨rfl, agree⟩
        · refine ⟨rfl, agree.schema, ?_⟩
          rw [← named]
          exact Catalog.get?_put_self.trans Catalog.get?_put_self.symm
  | listSchemas | getMap | updateMap | listMaps => exact concerns.elim

namespace Site

variable {ω : Type} {operator : OperatorHandler ω} {proxy : Proxy} {snapshot : Snapshot}
  {schema : Schema}

theorem bootstrap_concerns (schema : Schema) (site : Site ω) :
    ∀ step ∈ (bootstrap schema).steps handleStore site, step.call.Concerns schema.name := by
  have creates : ∀ (system : TypeSystem) (referenced : Bool) (site : Site ω),
      ∀ step ∈ (createSkeleton (skeleton (generatedMapName schema.name) system) referenced).steps
        handleStore site, step.call.Concerns schema.name := by
    intro system referenced site step member
    rw [createSkeleton, Program.steps_call] at member
    rcases List.mem_cons.1 member with rfl | later
    · exact rfl
    · split at later
      · exact (List.not_mem_nil later).elim
      · split at later <;> exact (List.not_mem_nil later).elim
  intro step member
  cases parsed : TypeSystem.parse schema.source with
  | error fault =>
      rw [bootstrap, parsed] at member
      exact (List.not_mem_nil member).elim
  | ok system =>
      obtain ⟨got, -⟩ := handleStore_answers (.getSchema schema.name) site
      rw [bootstrap, parsed, Program.steps_call] at member
      rcases List.mem_cons.1 member with rfl | member
      · exact rfl
      · split at member
        · exact (List.not_mem_nil member).elim
        · rename_i stored reply
          split at member
          · rcases List.mem_cons.1 member with rfl | member
            · exact Catalog.name_of_get? (got stored reply)
            · simp only at member
              split at member
              · exact (List.not_mem_nil member).elim
              · exact creates _ _ _ step member
          · split at member
            · exact creates _ _ _ step member
            · exact (List.not_mem_nil member).elim

structure Twins (name : String) (left right : Site ω) : Prop where
  faultless : left.faults = []
  faultlessTwin : right.faults = []
  agree : MemoryStore.AgreeAt name left.store right.store

variable {left right : Site ω}

theorem Twins.handleStore {name : String} {call : StoreCall} (twins : Twins name left right)
    (concerns : call.Concerns name) :
    (handleStore call right).1 = (handleStore call left).1 ∧
      Twins name (handleStore call left).2 (handleStore call right).2 := by
  have stores := twins.agree.handle concerns
  rw [handleStore_eq_of_faultless call twins.faultless,
    handleStore_eq_of_faultless call twins.faultlessTwin]
  exact ⟨stores.1, twins.faultless, twins.faultlessTwin, stores.2⟩

theorem Twins.bootstrap (twins : Twins schema.name left right) :
    ((bootstrap schema).run Site.handleStore right).1 =
        ((bootstrap schema).run Site.handleStore left).1 ∧
      Twins schema.name ((bootstrap schema).run Site.handleStore left).2
        ((bootstrap schema).run Site.handleStore right).2 := by
  refine Program.run_related (Twins schema.name) twins ?_
  intro step member twin related
  have handled := Program.handled_of_mem_steps member
  obtain ⟨reply, after⟩ := related.handleStore (bootstrap_concerns schema left step member)
  rw [handled] at reply after
  exact ⟨reply, after⟩

/-! One schema among others. -/

theorem store_handleSchema_of_not_bootstraps (complete : ¬schema.Bootstraps) (site : Site ω) :
    ((handleSchema proxy snapshot schema).run
      (deriveHandler Site.handleStore (handleOperator operator)) site).2.store = site.store := by
  refine Program.holds_along (fun point : Site ω => point.store = site.store) rfl ?_ _
    (Program.end_mem_points _ _ _)
  intro step member same
  obtain ⟨map, registers⟩ := registers_handleSchema complete site step member
  have handled := Program.handled_of_mem_steps member
  obtain ⟨before, call, reply, after⟩ := step
  cases registers
  exact (congrArg (fun result => result.2.store) handled).symm.trans same

theorem Twins.handleSchema (twins : Twins schema.name left right) :
    (outcomeIn (deriveHandler Site.handleStore (handleOperator operator)) proxy snapshot schema
        right).schemaFailure =
      (outcomeIn (deriveHandler Site.handleStore (handleOperator operator)) proxy snapshot schema
        left).schemaFailure ∧
    Twins schema.name
      ((GatewayControl.handleSchema proxy snapshot schema).run
        (deriveHandler Site.handleStore (handleOperator operator)) left).2
      ((GatewayControl.handleSchema proxy snapshot schema).run
        (deriveHandler Site.handleStore (handleOperator operator)) right).2 := by
  by_cases bootstraps : schema.Bootstraps
  · obtain ⟨same, after⟩ := twins.bootstrap
    have result : bootstrapResult (deriveHandler Site.handleStore (handleOperator operator)) schema
        right = bootstrapResult (deriveHandler Site.handleStore (handleOperator operator)) schema
          left := same
    rw [outcomeIn_of_unnamed bootstraps.1 bootstraps.2.1,
      outcomeIn_of_unnamed bootstraps.1 bootstraps.2.1, result,
      run_handleSchema_of_bootstraps bootstraps, run_handleSchema_of_bootstraps bootstraps]
    exact ⟨rfl, after⟩
  · rw [schemaFailure_of_not_bootstraps bootstraps, schemaFailure_of_not_bootstraps bootstraps]
    refine ⟨rfl, faults_run_derive operator _ twins.faultless,
      faults_run_derive operator _ twins.faultlessTwin, ?_⟩
    rw [store_handleSchema_of_not_bootstraps bootstraps,
      store_handleSchema_of_not_bootstraps bootstraps]
    exact twins.agree

theorem handleSchemas_leave (schemas : List Schema) (site : Site ω) :
    let after := ((handleSchemas proxy snapshot schemas).run
      (deriveHandler Site.handleStore (handleOperator operator)) site).2
    (∀ name, (∀ schema ∈ schemas, name ≠ schema.name) →
      after.store.schemas.get? name = site.store.schemas.get? name) ∧
    ∀ name, (∀ schema ∈ schemas, name ≠ generatedMapName schema.name) →
      after.store.maps.get? name = site.store.maps.get? name := by
  refine Program.holds_along (fun point : Site ω =>
    (∀ name, (∀ schema ∈ schemas, name ≠ schema.name) →
      point.store.schemas.get? name = site.store.schemas.get? name) ∧
    ∀ name, (∀ schema ∈ schemas, name ≠ generatedMapName schema.name) →
      point.store.maps.get? name = site.store.maps.get? name)
    ⟨fun _ _ => rfl, fun _ _ => rfl⟩ ?_ _ (Program.end_mem_points _ _ _)
  rintro step member ⟨schemasKept, mapsKept⟩
  cases handles_of_handleSchemas member with
  | stores belongs _ asked answers =>
      obtain ⟨schemasLeft, mapsLeft⟩ := asked.leaves answers
      constructor
      · intro name absent
        exact (schemasLeft name (absent _ belongs)).trans (schemasKept name absent)
      · intro name absent
        exact (mapsLeft name (absent _ belongs)).trans (mapsKept name absent)
  | registers same =>
      simp only [same]
      exact ⟨schemasKept, mapsKept⟩

theorem run_handleSchemas_singleton (schema : Schema) (site : Site ω) :
    ((handleSchemas proxy snapshot [schema]).run
      (deriveHandler Site.handleStore (handleOperator operator)) site).2 =
      ((GatewayControl.handleSchema proxy snapshot schema).run
        (deriveHandler Site.handleStore (handleOperator operator)) site).2 := by
  simp only [handleSchemas, Program.run_bind, Program.run_done]

theorem Twins.leave_handleSchemas {name : String} (twins : Twins name left right)
    {schemas : List Schema} (apart : ∀ schema ∈ schemas, name ≠ schema.name) :
    Twins name ((handleSchemas proxy snapshot schemas).run
      (deriveHandler Site.handleStore (handleOperator operator)) left).2 right := by
  obtain ⟨schemasLeft, mapsLeft⟩ := handleSchemas_leave schemas left
  refine ⟨faults_run_derive operator _ twins.faultless, twins.faultlessTwin, ?_, ?_⟩
  · exact (schemasLeft name apart).trans twins.agree.schema
  · refine (mapsLeft _ ?_).trans twins.agree.map
    intro schema member same
    exact apart schema member (generatedMapName_inj same)

theorem Twins.leave_handleSchema {name : String} (twins : Twins name left right)
    (apart : name ≠ schema.name) :
    Twins name ((GatewayControl.handleSchema proxy snapshot schema).run
      (deriveHandler Site.handleStore (handleOperator operator)) left).2 right := by
  rw [← run_handleSchemas_singleton]
  apply twins.leave_handleSchemas
  simpa using apart

theorem handleSchemas_alone {schemas : List Schema} (distinct : (schemas.map Schema.name).Nodup)
    (twins : ∀ schema ∈ schemas, Twins schema.name left right) :
    ((outcomesFrom (deriveHandler Site.handleStore (handleOperator operator)) proxy snapshot schemas
      left).map fun outcome => (⟨⟨.schema, outcome.1⟩, outcome.2.schemaFailure⟩ : Report)) =
      schemas.map (fun schema => ⟨⟨.schema, schema.name⟩,
        (outcomeIn (deriveHandler Site.handleStore (handleOperator operator)) proxy snapshot schema
          right).schemaFailure⟩) ∧
    ∀ schema ∈ schemas, Twins schema.name
      ((handleSchemas proxy snapshot schemas).run
        (deriveHandler Site.handleStore (handleOperator operator)) left).2
      ((GatewayControl.handleSchema proxy snapshot schema).run
        (deriveHandler Site.handleStore (handleOperator operator)) right).2 := by
  induction schemas generalizing left with
  | nil => exact ⟨rfl, fun _ member => (List.not_mem_nil member).elim⟩
  | cons first rest ih =>
      obtain ⟨fresh, distinct⟩ := List.nodup_cons.1 distinct
      obtain ⟨here, later⟩ := List.forall_mem_cons.1 twins
      have apart : ∀ other ∈ rest, other.name ≠ first.name := fun other member same =>
        fresh (same ▸ List.mem_map_of_mem member)
      -- the first schema leaves the twins of the others alone, and they leave its own alone
      have next : ∀ other ∈ rest, Twins other.name
          ((GatewayControl.handleSchema proxy snapshot first).run
            (deriveHandler Site.handleStore (handleOperator operator)) left).2 right :=
        fun other member => (later other member).leave_handleSchema (apart other member)
      obtain ⟨reports, ends⟩ := ih distinct next
      obtain ⟨failure, after⟩ := here.handleSchema
      rw [outcomesFrom_cons, List.map_cons, List.map_cons, reports, failure]
      simp only [handleSchemas, Program.run_bind, Program.run_done, List.forall_mem_cons]
      refine ⟨trivial, ?_, ends⟩
      apply after.leave_handleSchemas
      intro other member
      exact (apart other member).symm

end Site

/-! What is reported on resolver maps. -/

/-- The causes that reports give for the failure of a resolver map. -/
def causesFor (map : String) (reports : List Report) : List Failure :=
  (reports.filter fun report => report.object = ⟨.resolverMap, map⟩).flatMap Report.causes

section

variable {proxy : Proxy} {snapshot : Snapshot}

theorem causes_failingMapReport (map : String) :
    (failingMapReport proxy snapshot map).causes = buildCauses proxy snapshot map := by
  refine Failures.causes_toFailure? fun cause member => ?_
  obtain ⟨fault, -, rfl⟩ := List.mem_map.1 member
  rfl

theorem buildCauses_eq_nil {map : String} (sound : map ∉ failingMaps proxy snapshot) :
    buildCauses proxy snapshot map = [] := by
  rw [← causesOf_mapRecords]
  rw [← failedMaps_mapRecords] at sound
  exact MapFailures.causesOf_eq_nil sound

theorem causesFor_failingMaps (map : String) :
    causesFor map ((failingMaps proxy snapshot).map (failingMapReport proxy snapshot)) =
      buildCauses proxy snapshot map := by
  have own : ((failingMaps proxy snapshot).map (failingMapReport proxy snapshot)).filter
      (fun report => report.object = ⟨.resolverMap, map⟩) =
      ((failingMaps proxy snapshot).filter fun other => other = map).map
        (failingMapReport proxy snapshot) := by
    rw [List.filter_map]
    simp [Function.comp_def, failingMapReport]
  rw [causesFor, own, List.filter_eq]
  by_cases failing : map ∈ failingMaps proxy snapshot
  · have single : (failingMaps proxy snapshot).Nodup := nodup_eraseDups _
    rw [List.count_eq_one_of_mem single failing]
    simp [causes_failingMapReport]
  · rw [List.count_eq_zero_of_not_mem failing, buildCauses_eq_nil failing]
    rfl

theorem buildCauses_eq_flatMap (map : String) :
    buildCauses proxy snapshot map =
      snapshot.schemas.flatMap fun schema => buildCauses proxy (snapshot.only schema) map := by
  have each : ∀ schemas : List Schema,
      ((schemas.filter fun schema => schema.resolverMap = map).filterMap
        (buildFault? proxy snapshot)).map Failure.build =
      schemas.flatMap fun schema => (([schema].filter fun schema => schema.resolverMap = map).filterMap
        (buildFault? proxy snapshot)).map Failure.build := by
    intro schemas
    induction schemas with
    | nil => rfl
    | cons schema schemas ih =>
        rw [List.flatMap_cons, ← ih, ← List.map_append, ← List.filterMap_append, ← List.filter_append]
        rfl
  exact each snapshot.schemas

end

namespace Site

variable {ω : Type} (operator : OperatorHandler ω) (proxy : Proxy) (snapshot : Snapshot)
  (site : Site ω)

theorem causesFor_derived (map : String) :
    causesFor map (derived operator proxy snapshot site).1.reports =
      buildCauses proxy snapshot map := by
  have schemas : (schemaReports (deriveHandler Site.handleStore (handleOperator operator)) proxy
      snapshot site).filter (fun report => report.object = ⟨.resolverMap, map⟩) = [] := by
    rw [List.filter_eq_nil_iff]
    intro report member same
    obtain ⟨outcome, -, rfl⟩ := List.mem_map.1 member
    simp at same
  rw [derived, reports_deriveEndpoints_eq, causesFor, List.filter_append, schemas, List.nil_append]
  exact causesFor_failingMaps map

theorem schemaReports_derived :
    (derived operator proxy snapshot site).1.reports.filter
        (fun report => report.object.kind = .schema) =
      schemaReports (deriveHandler Site.handleStore (handleOperator operator)) proxy snapshot site := by
  have schemas : (schemaReports (deriveHandler Site.handleStore (handleOperator operator)) proxy
      snapshot site).filter (fun report => report.object.kind = .schema) =
      schemaReports (deriveHandler Site.handleStore (handleOperator operator)) proxy snapshot site := by
    rw [List.filter_eq_self]
    intro report member
    obtain ⟨outcome, -, rfl⟩ := List.mem_map.1 member
    simp
  have maps : ((failingMaps proxy snapshot).map (failingMapReport proxy snapshot)).filter
      (fun report => report.object.kind = .schema) = [] := by
    rw [List.filter_eq_nil_iff]
    intro report member same
    obtain ⟨map, -, rfl⟩ := List.mem_map.1 member
    simp [failingMapReport] at same
  rw [derived, reports_deriveEndpoints_eq, List.filter_append, schemas, maps, List.append_nil]

theorem endpoints_only (schema : Schema) :
    (derived operator proxy (snapshot.only schema) site).1.endpoints =
      (endpointOf? proxy snapshot schema).toList := by
  refine (endpoints_derived operator proxy (snapshot.only schema) site).trans ?_
  change [schema].filterMap (endpointOf? proxy snapshot) = _
  cases built : endpointOf? proxy snapshot schema <;> simp [built]

theorem schemaReports_only (schema : Schema) :
    (derived operator proxy (snapshot.only schema) site).1.reports.filter
        (fun report => report.object.kind = .schema) =
      [⟨⟨.schema, schema.name⟩, (outcomeIn (deriveHandler Site.handleStore (handleOperator operator))
        proxy snapshot schema site).schemaFailure⟩] := by
  refine (schemaReports_derived operator proxy (snapshot.only schema) site).trans ?_
  change (outcomesFrom _ proxy (snapshot.only schema) [schema] site).map _ = _
  rw [outcomesFrom_cons]
  rfl

theorem derived_leaves :
    (∀ name, (∀ schema ∈ snapshot.schemas, name ≠ schema.name) →
      (derived operator proxy snapshot site).2.store.schemas.get? name =
        site.store.schemas.get? name) ∧
    ∀ name, (∀ schema ∈ snapshot.schemas, name ≠ generatedMapName schema.name) →
      (derived operator proxy snapshot site).2.store.maps.get? name = site.store.maps.get? name := by
  rw [derived_eq_handleSchemas]
  exact handleSchemas_leave snapshot.schemas site

theorem derived_only (schema : Schema) :
    (derived operator proxy (snapshot.only schema) site).2 =
      ((GatewayControl.handleSchema proxy snapshot schema).run
        (deriveHandler Site.handleStore (handleOperator operator)) site).2 := by
  rw [derived_eq_handleSchemas]
  exact run_handleSchemas_singleton schema site

variable {operator proxy snapshot site}

theorem agreeAt_derived (operator : OperatorHandler ω) (proxy : Proxy) (faultless : site.faults = [])
    (distinct : (snapshot.schemas.map Schema.name).Nodup) {schema : Schema}
    (member : schema ∈ snapshot.schemas) :
    MemoryStore.AgreeAt schema.name (derived operator proxy snapshot site).2.store
      (derived operator proxy (snapshot.only schema) site).2.store := by
  rw [derived_eq_handleSchemas, derived_only]
  exact ((handleSchemas_alone distinct fun schema _ =>
    ⟨faultless, faultless, .refl schema.name site.store⟩).2 schema member).agree

theorem store_derived_perm (faultless : site.faults = [])
    (distinct : (snapshot.schemas.map Schema.name).Nodup) {other : Snapshot}
    (maps : other.maps = snapshot.maps) (permuted : other.schemas.Perm snapshot.schemas) :
    (derived operator proxy other site).2.store = (derived operator proxy snapshot site).2.store := by
  have distinctOther : (other.schemas.map Schema.name).Nodup :=
    (permuted.map Schema.name).nodup_iff.2 distinct
  have agree : ∀ schema ∈ snapshot.schemas, MemoryStore.AgreeAt schema.name
      (derived operator proxy other site).2.store (derived operator proxy snapshot site).2.store := by
    intro schema member
    have same : other.only schema = snapshot.only schema := by
      rw [Snapshot.only, Snapshot.only, maps]
    have here := agreeAt_derived operator proxy faultless distinctOther (permuted.mem_iff.2 member)
    rw [same] at here
    exact here.trans (agreeAt_derived operator proxy faultless distinct member).symm
  obtain ⟨leftOther, leftOtherMaps⟩ := derived_leaves operator proxy other site
  obtain ⟨left, leftMaps⟩ := derived_leaves operator proxy snapshot site
  refine MemoryStore.eq_of_get? (fun name => ?_) fun name => ?_
  · by_cases own : ∃ schema ∈ snapshot.schemas, name = schema.name
    · obtain ⟨schema, member, rfl⟩ := own
      exact (agree schema member).schema
    · have absent : ∀ schema ∈ snapshot.schemas, name ≠ schema.name := by simpa using own
      rw [left name absent]
      exact leftOther name fun schema member => absent schema (permuted.mem_iff.1 member)
  · by_cases own : ∃ schema ∈ snapshot.schemas, name = generatedMapName schema.name
    · obtain ⟨schema, member, rfl⟩ := own
      exact (agree schema member).map
    · have absent : ∀ schema ∈ snapshot.schemas, name ≠ generatedMapName schema.name := by
        simpa using own
      rw [leftMaps name absent]
      exact leftOtherMaps name fun schema member => absent schema (permuted.mem_iff.1 member)

end Site

/-- A derivation that no call of the store fails in comes, for schemas with names of their own, to
what the derivations of single schemas come to. Their endpoints and reports make up its own; so do
the causes that are given for a resolver map. Of each schema and its generated map it leaves in the
store what the derivation of the schema alone leaves; the rest it leaves as it was. So the order of
the schemas makes no difference to what is stored. -/
theorem schemas_independent {ω : Type} (operator : OperatorHandler ω) (proxy : Proxy)
    (site : Site ω) (faultless : site.faults = []) (snapshot : Snapshot)
    (distinct : (snapshot.schemas.map Schema.name).Nodup) :
    let whole := site.derived operator proxy snapshot
    let alone := fun schema => site.derived operator proxy (snapshot.only schema)
    whole.1.endpoints = snapshot.schemas.flatMap (fun schema => (alone schema).1.endpoints) ∧
    whole.1.reports.filter (fun report => report.object.kind = .schema) =
      snapshot.schemas.flatMap (fun schema =>
        (alone schema).1.reports.filter fun report => report.object.kind = .schema) ∧
    (∀ map, causesFor map whole.1.reports =
      snapshot.schemas.flatMap fun schema => causesFor map (alone schema).1.reports) ∧
    (∀ schema ∈ snapshot.schemas,
      MemoryStore.AgreeAt schema.name whole.2.store (alone schema).2.store) ∧
    (∀ name, (∀ schema ∈ snapshot.schemas, name ≠ schema.name) →
      whole.2.store.schemas.get? name = site.store.schemas.get? name) ∧
    (∀ name, (∀ schema ∈ snapshot.schemas, name ≠ generatedMapName schema.name) →
      whole.2.store.maps.get? name = site.store.maps.get? name) ∧
    ∀ other : Snapshot, other.maps = snapshot.maps → other.schemas.Perm snapshot.schemas →
      (site.derived operator proxy other).2.store = whole.2.store := by
  intro whole alone
  obtain ⟨schemasLeft, mapsLeft⟩ := Site.derived_leaves operator proxy snapshot site
  refine ⟨?_, ?_, ?_, ?_, schemasLeft, mapsLeft, ?_⟩
  · simp only [alone, Site.endpoints_only, ← List.filterMap_eq_flatMap_toList]
    exact Site.endpoints_derived operator proxy snapshot site
  · simp only [alone, Site.schemaReports_only, ← List.map_eq_flatMap]
    refine (Site.schemaReports_derived operator proxy snapshot site).trans ?_
    exact (Site.handleSchemas_alone distinct fun schema _ =>
      ⟨faultless, faultless, .refl schema.name site.store⟩).1
  · intro map
    simp only [alone, whole, Site.causesFor_derived]
    exact buildCauses_eq_flatMap map
  · exact fun schema member => Site.agreeAt_derived operator proxy faultless distinct member
  · exact fun other maps permuted => Site.store_derived_perm faultless distinct maps permuted

def mixedSite : Site Unit where
  store := ((({} : MemoryStore).putSchema
    { name := "items", source := "total: Int" }).putSchema
      { name := "orders", resolverMap := "totals", source := "type Query { total: Int }" }).putSchema
        { name := "users", source := "type Query { name: String }" }
  operator := ()

theorem users_independent_of_others :
    let snapshot := mixedSite.store.snapshot
    let users : Schema := { name := "users", source := "type Query { name: String }", version := 1 }
    (mixedSite.derived idleOperator halfwayProxy snapshot).2.store.AgreeAt "users"
        (mixedSite.derived idleOperator halfwayProxy (snapshot.only users)).2.store ∧
      (mixedSite.derived idleOperator halfwayProxy
        { snapshot with schemas := snapshot.schemas.reverse }).2.store =
        (mixedSite.derived idleOperator halfwayProxy snapshot).2.store := by
  intro snapshot users
  have distinct : (snapshot.schemas.map Schema.name).Nodup := by decide +kernel
  obtain ⟨-, -, -, agree, -, -, permuted⟩ :=
    schemas_independent idleOperator halfwayProxy mixedSite rfl snapshot distinct
  have member : users ∈ snapshot.schemas := by decide +kernel
  exact ⟨agree users member, permuted _ rfl (List.reverse_perm snapshot.schemas)⟩

end GatewayControl
