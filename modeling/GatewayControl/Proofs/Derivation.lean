import GatewayControl.Proofs.Gathering
import GatewayControl.Proofs.Run
import GatewayControl.Reconcile.Derive

/-!
What is derived from a snapshot, whatever the store and the operator of the proxy answer. Endpoints
and the failures of resolver maps depend on the snapshot alone; the report of a schema depends on
the store only if the schema asks for a generated map.
-/

namespace GatewayControl

open GraphQL (TypeSystem)

variable {σ : Type}

def Snapshot.mapOf? (snapshot : Snapshot) (schema : Schema) : Option ResolverMap :=
  if ValidName schema.name ∧ schema.resolverMap ≠ "" then snapshot.map? schema.resolverMap
  else none

def endpointOf? (proxy : Proxy) (snapshot : Snapshot) (schema : Schema) : Option Endpoint := do
  let map ← snapshot.mapOf? schema
  let system ← (TypeSystem.parse schema.source).toOption
  let resolvers ← (proxy.build system map).toOption
  return ⟨schema.name, system, resolvers⟩

def servedMap? (proxy : Proxy) (snapshot : Snapshot) (schema : Schema) : Option ResolverMap := do
  let map ← snapshot.mapOf? schema
  let system ← (TypeSystem.parse schema.source).toOption
  let _ ← (proxy.build system map).toOption
  return map

def buildFault? (proxy : Proxy) (snapshot : Snapshot) (schema : Schema) : Option BuildFault := do
  let map ← snapshot.mapOf? schema
  let system ← (TypeSystem.parse schema.source).toOption
  match proxy.build system map with
  | .ok _ => none
  | .error fault => some fault

def Step.registration? : Step DeriveCall.Reply σ → Option (ResolverMap × Except OperatorFault Unit)
  | ⟨_, .register map, reply, _⟩ => some (map, reply)
  | ⟨_, .store _, _, _⟩ => none

def registrationFailure? : ResolverMap × Except OperatorFault Unit → Option Failure
  | (_, .ok _) => none
  | (_, .error fault) => some (.operator fault)

theorem Snapshot.name_of_map? {snapshot : Snapshot} {name : String} {map : ResolverMap}
    (found : snapshot.map? name = some map) : map.name = name ∧ map ∈ snapshot.maps :=
  ⟨by simpa using List.find?_some found, List.mem_of_find?_eq_some found⟩

theorem Snapshot.mapOf?_eq_some_iff {snapshot : Snapshot} {schema : Schema} {map : ResolverMap} :
    snapshot.mapOf? schema = some map ↔
      ValidName schema.name ∧ schema.resolverMap ≠ "" ∧
        snapshot.map? schema.resolverMap = some map := by
  rw [mapOf?]
  split
  · rename_i asked
    simp [asked]
  · rename_i unasked
    simp only [reduceCtorEq, false_iff]
    exact fun ⟨valid, named, _⟩ => unasked ⟨valid, named⟩

/-- A schema has an endpoint exactly if its name is valid, it names a map of the snapshot, its
source parses and the map builds. -/
theorem endpointOf?_eq_some_iff {proxy : Proxy} {snapshot : Snapshot} {schema : Schema}
    {endpoint : Endpoint} :
    endpointOf? proxy snapshot schema = some endpoint ↔
      ∃ map system resolvers,
        snapshot.mapOf? schema = some map ∧ TypeSystem.parse schema.source = .ok system ∧
        proxy.build system map = .ok resolvers ∧ endpoint = ⟨schema.name, system, resolvers⟩ := by
  simp only [endpointOf?]
  cases snapshot.mapOf? schema with
  | none => simp
  | some map =>
      cases TypeSystem.parse schema.source with
      | error fault => simp [Except.toOption]
      | ok system =>
          cases built : proxy.build system map with
          | error fault => simp [Except.toOption, built]
          | ok resolvers => simp [Except.toOption, built, eq_comm]

theorem handleSchema_cases (proxy : Proxy) (snapshot : Snapshot) (schema : Schema) :
    (∃ fault, nameFault schema.name = some fault ∧
      handleSchema proxy snapshot schema =
        .done { schemaFailure := some (.invalidName fault.message) }) ∨
    (ValidName schema.name ∧ schema.resolverMap = "" ∧
      handleSchema proxy snapshot schema =
        (Program.embed DeriveCall.store (bootstrap schema)).bind fun result =>
          .done (.ofBootstrap result)) ∨
    (ValidName schema.name ∧ schema.resolverMap ≠ "" ∧
      snapshot.map? schema.resolverMap = none ∧
      handleSchema proxy snapshot schema =
        .done { schemaFailure := some (.mapNotFound schema.name schema.resolverMap) }) ∨
    (∃ map, snapshot.mapOf? schema = some map ∧
      handleSchema proxy snapshot schema = buildEndpoint proxy schema map) := by
  cases valid : nameFault schema.name with
  | some fault => exact .inl ⟨fault, rfl, by simp only [handleSchema, valid]⟩
  | none =>
      by_cases unnamed : schema.resolverMap = ""
      · exact .inr (.inl ⟨valid, unnamed, by simp only [handleSchema, valid, unnamed, if_true]⟩)
      · cases found : snapshot.map? schema.resolverMap with
        | none =>
            exact .inr (.inr (.inl ⟨valid, unnamed, rfl, by
              simp only [handleSchema, valid, found, if_neg unnamed]⟩))
        | some map =>
            exact .inr (.inr (.inr ⟨map, Snapshot.mapOf?_eq_some_iff.2 ⟨valid, unnamed, found⟩, by
              simp only [handleSchema, valid, found, if_neg unnamed]⟩))

theorem buildEndpoint_cases (proxy : Proxy) (schema : Schema) (map : ResolverMap) :
    (∃ fault, TypeSystem.parse schema.source = .error fault ∧
      buildEndpoint proxy schema map =
        .done { schemaFailure := some (.schemaParse fault.message) }) ∨
    (∃ system fault, TypeSystem.parse schema.source = .ok system ∧
      proxy.build system map = .error fault ∧
      buildEndpoint proxy schema map = .done { mapFailure := some (map.name, .build fault) }) ∨
    (∃ system resolvers, TypeSystem.parse schema.source = .ok system ∧
      proxy.build system map = .ok resolvers ∧
      buildEndpoint proxy schema map =
        .call (.register map) fun reply =>
          .done {
            endpoint := some ⟨schema.name, system, resolvers⟩
            registerFailure := registerFault? reply }) := by
  cases parsed : TypeSystem.parse schema.source with
  | error fault => exact .inl ⟨fault, rfl, by rw [buildEndpoint, parsed]⟩
  | ok system =>
      cases built : proxy.build system map with
      | error fault =>
          exact .inr (.inl ⟨system, fault, rfl, built, by rw [buildEndpoint, parsed]; simp only [built]⟩)
      | ok resolvers =>
          exact .inr (.inr ⟨system, resolvers, rfl, built, by
            rw [buildEndpoint, parsed]; simp only [built]⟩)

/-! What a generated map is asked for with. -/

def bootstrapResult (handler : Handler DeriveCall.Reply σ) (schema : Schema) (state : σ) :
    Except Failure Unit :=
  ((bootstrap schema).run (fun call => handler (.store call)) state).1

theorem bootstrapResult_of_parse_error {handler : Handler DeriveCall.Reply σ} {schema : Schema}
    {fault : GraphQL.TypeFault} (unparsed : TypeSystem.parse schema.source = .error fault)
    (state : σ) : bootstrapResult handler schema state = .error (.schemaParse fault.message) := by
  rw [bootstrapResult, bootstrap, unparsed]; rfl

def Failure.IsBuild (failure : Failure) : Prop := ∃ fault, .build fault ∈ failure.causes

/-- Whether a failure is of the kinds that belong to schemas: of a name, a source, a reference or the
store. -/
def Failure.OfSchema : Failure → Prop
  | .invalidName _ | .schemaParse _ | .mapNotFound _ _ | .storage _ _ => True
  | .build _ | .watch _ | .operator _ | .several _ => False

theorem Failure.OfSchema.single {failure : Failure} (ofSchema : failure.OfSchema) :
    failure.Single := by
  cases failure with
  | invalidName | schemaParse | mapNotFound | storage => rfl
  | build | watch | operator | several => exact ofSchema.elim

theorem Failure.OfSchema.not_isBuild {failure : Failure} (ofSchema : failure.OfSchema) :
    ¬failure.IsBuild := by
  rintro ⟨fault, member⟩
  rw [ofSchema.single] at member
  cases List.mem_singleton.1 member
  exact ofSchema

theorem createSkeleton_ofSchema {handler : StoreHandler σ} {map : ResolverMap}
    {referenced : Bool} {state : σ} {failure : Failure}
    (failed : ((createSkeleton map referenced).run handler state).1 = .error failure) :
    failure.OfSchema := by
  simp only [createSkeleton, Program.run_call] at failed
  split at failed
  · cases failed
  · split at failed
    · cases failed
    · cases failed
      trivial

theorem bootstrapResult_ofSchema {handler : Handler DeriveCall.Reply σ} {schema : Schema}
    {state : σ} {failure : Failure}
    (failed : bootstrapResult handler schema state = .error failure) : failure.OfSchema := by
  cases parsed : TypeSystem.parse schema.source with
  | error fault =>
      rw [bootstrapResult_of_parse_error parsed] at failed
      cases failed
      trivial
  | ok system =>
      rw [bootstrapResult, bootstrap, parsed] at failed
      simp only [Program.run_call] at failed
      split at failed
      · cases failed
        trivial
      · split at failed
        · simp only [Program.run_call] at failed
          split at failed
          · cases failed
            trivial
          · exact createSkeleton_ofSchema failed
        · split at failed
          · exact createSkeleton_ofSchema failed
          · cases failed

/-! What comes of one schema. -/

variable {proxy : Proxy} {snapshot : Snapshot} {schema : Schema}
  {handler : Handler DeriveCall.Reply σ}

def outcomeIn (handler : Handler DeriveCall.Reply σ) (proxy : Proxy) (snapshot : Snapshot)
    (schema : Schema) (state : σ) : SchemaOutcome :=
  ((handleSchema proxy snapshot schema).run handler state).1

theorem outcomeIn_of_unnamed (valid : ValidName schema.name) (unnamed : schema.resolverMap = "")
    (state : σ) :
    outcomeIn handler proxy snapshot schema state =
      .ofBootstrap (bootstrapResult handler schema state) := by
  have noFault : nameFault schema.name = none := valid
  rw [outcomeIn, handleSchema, noFault]
  simp only [unnamed, if_true, Program.run_bind, Program.run_embed, Program.run_done]
  rfl

theorem mapOf?_eq_none_of_unnamed (unnamed : schema.resolverMap = "") :
    snapshot.mapOf? schema = none := by
  simp [Snapshot.mapOf?, unnamed]

theorem mapOf?_eq_none_of_fault {fault : NameFault} (invalid : nameFault schema.name = some fault) :
    snapshot.mapOf? schema = none := by
  have notValid : ¬ValidName schema.name := fun valid => by rw [ValidName, invalid] at valid; cases valid
  simp [Snapshot.mapOf?, notValid]

theorem mapOf?_eq_none_of_missing (missing : snapshot.map? schema.resolverMap = none) :
    snapshot.mapOf? schema = none := by
  simp [Snapshot.mapOf?, missing]

theorem endpoint_outcomeIn (state : σ) :
    (outcomeIn handler proxy snapshot schema state).endpoint =
      endpointOf? proxy snapshot schema := by
  rcases handleSchema_cases proxy snapshot schema with
    ⟨fault, invalid, program⟩ | ⟨valid, unnamed, -⟩ | ⟨-, -, missing, program⟩ | ⟨map, named, program⟩
  · simp [outcomeIn, program, endpointOf?, mapOf?_eq_none_of_fault invalid]
  · rw [outcomeIn_of_unnamed valid unnamed]
    cases bootstrapResult handler schema state <;>
      simp [SchemaOutcome.ofBootstrap, endpointOf?, mapOf?_eq_none_of_unnamed unnamed]
  · simp [outcomeIn, program, endpointOf?, mapOf?_eq_none_of_missing missing]
  · rw [outcomeIn, program]
    rcases buildEndpoint_cases proxy schema map with
      ⟨fault, parsed, built⟩ | ⟨system, fault, parsed, failed, built⟩ |
        ⟨system, resolvers, parsed, resolved, built⟩
    · simp [built, endpointOf?, named, parsed, Except.toOption]
    · simp [built, endpointOf?, named, parsed, failed, Except.toOption]
    · simp [built, endpointOf?, named, parsed, resolved, Except.toOption]

theorem mapFailure_outcomeIn (state : σ) :
    (outcomeIn handler proxy snapshot schema state).mapFailure =
      (buildFault? proxy snapshot schema).map fun fault =>
        (schema.resolverMap, Failure.build fault) := by
  rcases handleSchema_cases proxy snapshot schema with
    ⟨fault, invalid, program⟩ | ⟨valid, unnamed, -⟩ | ⟨-, -, missing, program⟩ | ⟨map, named, program⟩
  · simp [outcomeIn, program, buildFault?, mapOf?_eq_none_of_fault invalid]
  · rw [outcomeIn_of_unnamed valid unnamed]
    cases bootstrapResult handler schema state <;>
      simp [SchemaOutcome.ofBootstrap, buildFault?, mapOf?_eq_none_of_unnamed unnamed]
  · simp [outcomeIn, program, buildFault?, mapOf?_eq_none_of_missing missing]
  · have name : map.name = schema.resolverMap :=
      (Snapshot.name_of_map? (Snapshot.mapOf?_eq_some_iff.1 named).2.2).1
    rw [outcomeIn, program]
    rcases buildEndpoint_cases proxy schema map with
      ⟨fault, parsed, built⟩ | ⟨system, fault, parsed, failed, built⟩ |
        ⟨system, resolvers, parsed, resolved, built⟩
    · simp [built, buildFault?, named, parsed, Except.toOption]
    · simp [built, buildFault?, named, parsed, failed, name, Except.toOption]
    · simp [built, buildFault?, named, parsed, resolved, Except.toOption]

/-- A schema fails for its name, its bootstrap, the map it names or its source, and for nothing
else. -/
theorem schemaFailure_outcomeIn (state : σ) :
    (outcomeIn handler proxy snapshot schema state).schemaFailure.isSome ↔
      ¬ValidName schema.name ∨
      (schema.resolverMap = "" ∧ ∃ failure, bootstrapResult handler schema state = .error failure) ∨
      (schema.resolverMap ≠ "" ∧ snapshot.map? schema.resolverMap = none) ∨
      ∃ fault, TypeSystem.parse schema.source = .error fault := by
  rcases handleSchema_cases proxy snapshot schema with
    ⟨fault, invalid, program⟩ | ⟨valid, unnamed, -⟩ | ⟨-, unnamed, missing, program⟩ |
      ⟨map, named, program⟩
  · have notValid : ¬ValidName schema.name := fun valid => by
      rw [ValidName, invalid] at valid; cases valid
    simp [outcomeIn, program, notValid]
  · rw [outcomeIn_of_unnamed valid unnamed]
    cases result : bootstrapResult handler schema state with
    | error failure => simp [SchemaOutcome.ofBootstrap, unnamed]
    | ok _ =>
        have parsed : ¬∃ fault, TypeSystem.parse schema.source = .error fault := by
          rintro ⟨fault, unparsed⟩
          rw [bootstrapResult_of_parse_error unparsed] at result
          cases result
        simp [SchemaOutcome.ofBootstrap, unnamed, valid, parsed]
  · simp [outcomeIn, program, unnamed, missing]
  · obtain ⟨valid, unnamed, found⟩ := Snapshot.mapOf?_eq_some_iff.1 named
    rw [outcomeIn, program]
    rcases buildEndpoint_cases proxy schema map with
      ⟨fault, parsed, built⟩ | ⟨system, fault, parsed, failed, built⟩ |
        ⟨system, resolvers, parsed, resolved, built⟩
    · simp [built, parsed]
    · simp [built, valid, unnamed, found, parsed]
    · simp [built, valid, unnamed, found, parsed]

theorem schemaFailure_ofSchema {state : σ} {failure : Failure}
    (failed : (outcomeIn handler proxy snapshot schema state).schemaFailure = some failure) :
    failure.OfSchema := by
  rcases handleSchema_cases proxy snapshot schema with
    ⟨fault, -, program⟩ | ⟨valid, unnamed, -⟩ | ⟨-, -, -, program⟩ | ⟨map, -, program⟩
  · rw [outcomeIn, program] at failed
    cases failed
    trivial
  · rw [outcomeIn_of_unnamed valid unnamed] at failed
    cases result : bootstrapResult handler schema state with
    | ok _ => rw [result] at failed; cases failed
    | error failure =>
        rw [result] at failed
        cases failed
        exact bootstrapResult_ofSchema result
  · rw [outcomeIn, program] at failed
    cases failed
    trivial
  · rw [outcomeIn, program] at failed
    rcases buildEndpoint_cases proxy schema map with
      ⟨fault, -, built⟩ | ⟨_, _, -, -, built⟩ | ⟨_, _, -, -, built⟩
    · rw [built] at failed
      cases failed
      trivial
    · rw [built] at failed
      cases failed
    · rw [built] at failed
      cases failed

theorem schemaFailure_not_isBuild {state : σ} {failure : Failure}
    (failed : (outcomeIn handler proxy snapshot schema state).schemaFailure = some failure) :
    ¬failure.IsBuild :=
  (schemaFailure_ofSchema failed).not_isBuild

theorem registrations_handleSchema (state : σ) :
    (((handleSchema proxy snapshot schema).steps handler state).filterMap
        Step.registration?).map Prod.fst =
      (servedMap? proxy snapshot schema).toList := by
  rcases handleSchema_cases proxy snapshot schema with
    ⟨fault, invalid, program⟩ | ⟨valid, unnamed, program⟩ | ⟨-, -, missing, program⟩ |
      ⟨map, named, program⟩
  · simp [program, servedMap?, mapOf?_eq_none_of_fault invalid]
  · rw [program, Program.steps_bind, Program.steps_embed]
    simp [servedMap?, mapOf?_eq_none_of_unnamed unnamed, List.filterMap_map, Function.comp_def,
      Step.embed, Step.registration?]
  · simp [program, servedMap?, mapOf?_eq_none_of_missing missing]
  · rw [program]
    rcases buildEndpoint_cases proxy schema map with
      ⟨fault, parsed, built⟩ | ⟨system, fault, parsed, failed, built⟩ |
        ⟨system, resolvers, parsed, resolved, built⟩
    · simp [built, servedMap?, named, parsed, Except.toOption]
    · simp [built, servedMap?, named, parsed, failed, Except.toOption]
    · simp [built, servedMap?, named, parsed, resolved, Except.toOption, Step.registration?]

theorem registerFailure_outcomeIn (state : σ) :
    ((outcomeIn handler proxy snapshot schema state).registerFailure.map Failure.operator).toList =
      (((handleSchema proxy snapshot schema).steps handler state).filterMap
        Step.registration?).filterMap registrationFailure? := by
  rcases handleSchema_cases proxy snapshot schema with
    ⟨fault, invalid, program⟩ | ⟨valid, unnamed, program⟩ | ⟨-, -, missing, program⟩ |
      ⟨map, named, program⟩
  · simp [outcomeIn, program]
  · rw [outcomeIn_of_unnamed valid unnamed, program, Program.steps_bind, Program.steps_embed]
    cases bootstrapResult handler schema state <;>
      simp [SchemaOutcome.ofBootstrap, List.filterMap_map, Function.comp_def, Step.embed,
        Step.registration?]
  · simp [outcomeIn, program]
  · rw [outcomeIn, program]
    rcases buildEndpoint_cases proxy schema map with
      ⟨fault, parsed, built⟩ | ⟨system, fault, parsed, failed, built⟩ |
        ⟨system, resolvers, parsed, resolved, built⟩
    · simp [built]
    · simp [built]
    · rw [built]
      simp only [Program.run_call, Program.run_done, Program.steps_call, Program.steps_done,
        List.filterMap_cons, Step.registration?, List.filterMap_nil]
      cases (handler (.register map) state).1 <;> rfl

/-! What comes of all schemas. -/

def outcomesFrom (handler : Handler DeriveCall.Reply σ) (proxy : Proxy) (snapshot : Snapshot)
    (schemas : List Schema) (state : σ) : List (String × SchemaOutcome) :=
  ((handleSchemas proxy snapshot schemas).run handler state).1

def stateBefore (handler : Handler DeriveCall.Reply σ) (proxy : Proxy) (snapshot : Snapshot)
    (schemas : List Schema) (state : σ) (position : Nat) : σ :=
  ((handleSchemas proxy snapshot (schemas.take position)).run handler state).2

theorem handleSchemas_append (schemas more : List Schema) :
    handleSchemas proxy snapshot (schemas ++ more) =
      (handleSchemas proxy snapshot schemas).bind fun outcomes =>
        (handleSchemas proxy snapshot more).bind fun others => .done (outcomes ++ others) := by
  induction schemas with
  | nil => exact (Program.bind_done (handleSchemas proxy snapshot more)).symm
  | cons schema schemas ih =>
      rw [List.cons_append, handleSchemas, ih, handleSchemas]
      simp only [Program.bind_assoc, Program.bind, List.cons_append]

theorem outcomesFrom_cons (schemas : List Schema) (state : σ) :
    outcomesFrom handler proxy snapshot (schema :: schemas) state =
      (schema.name, outcomeIn handler proxy snapshot schema state) ::
        outcomesFrom handler proxy snapshot schemas
          ((handleSchema proxy snapshot schema).run handler state).2 := by
  simp only [outcomesFrom, handleSchemas, Program.run_bind, Program.run_done]
  rfl

theorem stateBefore_cons (schemas : List Schema) (state : σ) (position : Nat) :
    stateBefore handler proxy snapshot (schema :: schemas) state (position + 1) =
      stateBefore handler proxy snapshot schemas
        ((handleSchema proxy snapshot schema).run handler state).2 position := by
  simp only [stateBefore, List.take_succ_cons, handleSchemas, Program.run_bind, Program.run_done]

theorem getElem?_outcomesFrom (schemas : List Schema) (state : σ) (position : Nat) :
    (outcomesFrom handler proxy snapshot schemas state)[position]? =
      schemas[position]?.map fun schema =>
        (schema.name, outcomeIn handler proxy snapshot schema
          (stateBefore handler proxy snapshot schemas state position)) := by
  induction schemas generalizing state position with
  | nil => rfl
  | cons schema schemas ih =>
      rw [outcomesFrom_cons]
      cases position with
      | zero => rfl
      | succ position =>
          rw [List.getElem?_cons_succ, List.getElem?_cons_succ, ih, stateBefore_cons]

theorem outcomesFrom_append (schemas more : List Schema) (state : σ) :
    outcomesFrom handler proxy snapshot (schemas ++ more) state =
      outcomesFrom handler proxy snapshot schemas state ++
        outcomesFrom handler proxy snapshot more
          ((handleSchemas proxy snapshot schemas).run handler state).2 := by
  simp only [outcomesFrom, handleSchemas_append, Program.run_bind, Program.run_done]

theorem map_fst_outcomesFrom (handler : Handler DeriveCall.Reply σ) (proxy : Proxy)
    (snapshot : Snapshot) (schemas : List Schema) (state : σ) :
    (outcomesFrom handler proxy snapshot schemas state).map Prod.fst = schemas.map Schema.name := by
  induction schemas generalizing state with
  | nil => rfl
  | cons schema schemas ih => rw [outcomesFrom_cons, List.map_cons, List.map_cons, ih]

/-- What the snapshot alone decides for each schema, it decides for all of them. -/
theorem filterMap_outcomesFrom {β : Type} {part : SchemaOutcome → Option β}
    {expected : Schema → Option β}
    (agree : ∀ schema state, part (outcomeIn handler proxy snapshot schema state) = expected schema)
    (schemas : List Schema) (state : σ) :
    (outcomesFrom handler proxy snapshot schemas state).filterMap (fun outcome => part outcome.2) =
      schemas.filterMap expected := by
  induction schemas generalizing state with
  | nil => rfl
  | cons schema schemas ih =>
      rw [outcomesFrom_cons, List.filterMap_cons, List.filterMap_cons, agree, ih]

def registrationsFrom (handler : Handler DeriveCall.Reply σ) (proxy : Proxy) (snapshot : Snapshot)
    (schemas : List Schema) (state : σ) : List (ResolverMap × Except OperatorFault Unit) :=
  ((handleSchemas proxy snapshot schemas).steps handler state).filterMap Step.registration?

theorem registrationsFrom_cons (schemas : List Schema) (state : σ) :
    registrationsFrom handler proxy snapshot (schema :: schemas) state =
      ((handleSchema proxy snapshot schema).steps handler state).filterMap Step.registration? ++
        registrationsFrom handler proxy snapshot schemas
          ((handleSchema proxy snapshot schema).run handler state).2 := by
  simp [registrationsFrom, handleSchemas, Program.steps_bind]

theorem map_fst_registrationsFrom (schemas : List Schema) (state : σ) :
    (registrationsFrom handler proxy snapshot schemas state).map Prod.fst =
      schemas.filterMap (servedMap? proxy snapshot) := by
  induction schemas generalizing state with
  | nil => rfl
  | cons schema schemas ih =>
      rw [registrationsFrom_cons, List.map_append, registrations_handleSchema, ih,
        List.filterMap_cons]
      cases servedMap? proxy snapshot schema <;> rfl

theorem failures_registrationsFrom (schemas : List Schema) (state : σ) :
    (outcomesFrom handler proxy snapshot schemas state).filterMap
        (fun outcome => outcome.2.registerFailure.map Failure.operator) =
      (registrationsFrom handler proxy snapshot schemas state).filterMap registrationFailure? := by
  induction schemas generalizing state with
  | nil => rfl
  | cons schema schemas ih =>
      rw [outcomesFrom_cons, registrationsFrom_cons, List.filterMap_append,
        ← registerFailure_outcomeIn, List.filterMap_cons, ih]
      cases (outcomeIn handler proxy snapshot schema state).registerFailure <;> rfl

/-! The reports. -/

/-- The maps that do not build for some schema, by the first schema they fail for. -/
def failingMaps (proxy : Proxy) (snapshot : Snapshot) : List String :=
  ((snapshot.schemas.filter fun schema => (buildFault? proxy snapshot schema).isSome).map
    Schema.resolverMap).eraseDups

def buildCauses (proxy : Proxy) (snapshot : Snapshot) (map : String) : List Failure :=
  ((snapshot.schemas.filter fun schema => schema.resolverMap = map).filterMap
    (buildFault? proxy snapshot)).map Failure.build

def failingMapReport (proxy : Proxy) (snapshot : Snapshot) (map : String) : Report :=
  ⟨⟨.resolverMap, map⟩, (⟨buildCauses proxy snapshot map⟩ : Failures).toFailure?⟩

def mapRecords (proxy : Proxy) (snapshot : Snapshot) (schemas : List Schema) :
    List (String × Failure) :=
  schemas.filterMap fun schema =>
    (buildFault? proxy snapshot schema).map fun fault => (schema.resolverMap, Failure.build fault)

theorem mapRecords_caused {schemas : List Schema} :
    ∀ record ∈ mapRecords proxy snapshot schemas, record.2.causes ≠ [] := by
  intro record member
  obtain ⟨schema, -, recorded⟩ := List.mem_filterMap.1 member
  obtain ⟨fault, -, same⟩ := Option.map_eq_some_iff.1 recorded
  subst same
  simp [Failure.causes]

theorem failedMaps_mapRecords :
    MapFailures.failedMaps (mapRecords proxy snapshot snapshot.schemas) =
      failingMaps proxy snapshot := by
  rw [MapFailures.failedMaps, failingMaps]
  congr 1
  induction snapshot.schemas with
  | nil => rfl
  | cons schema schemas ih =>
      simp only [mapRecords, List.filterMap_cons, List.filter_cons] at ih ⊢
      cases buildFault? proxy snapshot schema with
      | none => simpa using ih
      | some fault => simpa using ih

theorem causesOf_mapRecords (map : String) :
    MapFailures.causesOf map (mapRecords proxy snapshot snapshot.schemas) =
      buildCauses proxy snapshot map := by
  rw [MapFailures.causesOf, buildCauses]
  induction snapshot.schemas with
  | nil => rfl
  | cons schema schemas ih =>
      simp only [mapRecords, List.filterMap_cons, List.filter_cons] at ih ⊢
      by_cases same : schema.resolverMap = map
      · cases found : buildFault? proxy snapshot schema with
        | none => simpa [same, found] using ih
        | some fault => simpa [same, found, List.filter_cons, Failure.causes] using ih
      · cases found : buildFault? proxy snapshot schema with
        | none => simpa [same, found] using ih
        | some fault => simpa [same, found, List.filter_cons] using ih

theorem mem_failingMaps {map : String} :
    map ∈ failingMaps proxy snapshot ↔
      ∃ schema ∈ snapshot.schemas, ∃ fault,
        buildFault? proxy snapshot schema = some fault ∧ schema.resolverMap = map := by
  simp [failingMaps, Option.isSome_iff_exists, and_assoc]

theorem buildCauses_ne_nil {map : String} (failing : map ∈ failingMaps proxy snapshot) :
    buildCauses proxy snapshot map ≠ [] := by
  obtain ⟨schema, member, fault, failed, same⟩ := mem_failingMaps.1 failing
  have cause : Failure.build fault ∈ buildCauses proxy snapshot map :=
    List.mem_map.2 ⟨fault, List.mem_filterMap.2
      ⟨schema, List.mem_filter.2 ⟨member, by simpa using same⟩, failed⟩, rfl⟩
  exact List.ne_nil_of_mem cause

theorem mem_maps_of_failing {map : String} (failing : map ∈ failingMaps proxy snapshot) :
    ∃ stored ∈ snapshot.maps, stored.name = map := by
  obtain ⟨schema, -, fault, failed, same⟩ := mem_failingMaps.1 failing
  cases named : snapshot.mapOf? schema with
  | none => simp [buildFault?, named] at failed
  | some stored =>
      obtain ⟨name, member⟩ := Snapshot.name_of_map? (Snapshot.mapOf?_eq_some_iff.1 named).2.2
      exact ⟨stored, member, name.trans same⟩

theorem run_deriveEndpoints (state : σ) :
    ((deriveEndpoints proxy snapshot).run handler state).1 =
      .ofOutcomes (outcomesFrom handler proxy snapshot snapshot.schemas state) := by
  simp only [deriveEndpoints, Program.run_bind, Program.run_done]
  rfl

theorem endpoints_deriveEndpoints (state : σ) :
    ((deriveEndpoints proxy snapshot).run handler state).1.endpoints =
      snapshot.schemas.filterMap (endpointOf? proxy snapshot) := by
  rw [run_deriveEndpoints]
  exact filterMap_outcomesFrom (fun _ => endpoint_outcomeIn) _ _

theorem registrations_deriveEndpoints (state : σ) :
    ((deriveEndpoints proxy snapshot).steps handler state).filterMap Step.registration? =
      registrationsFrom handler proxy snapshot snapshot.schemas state := by
  simp [deriveEndpoints, Program.steps_bind, registrationsFrom]

theorem failures_deriveEndpoints (state : σ) :
    ((deriveEndpoints proxy snapshot).run handler state).1.failures =
      (((deriveEndpoints proxy snapshot).steps handler state).filterMap
        Step.registration?).filterMap registrationFailure? := by
  rw [run_deriveEndpoints, registrations_deriveEndpoints, ← failures_registrationsFrom]
  rfl

theorem mapReports_eq (handler : Handler DeriveCall.Reply σ) (state : σ) :
    (({} : MapFailures).recordAll
        ((outcomesFrom handler proxy snapshot snapshot.schemas state).filterMap
          fun outcome => outcome.2.mapFailure)).reports =
      (failingMaps proxy snapshot).map (failingMapReport proxy snapshot) := by
  rw [filterMap_outcomesFrom fun _ => mapFailure_outcomeIn]
  change (({} : MapFailures).recordAll (mapRecords proxy snapshot snapshot.schemas)).reports = _
  rw [MapFailures.reports_recordAll mapRecords_caused, failedMaps_mapRecords]
  refine List.map_congr_left fun map _ => ?_
  rw [MapFailures.reportOf, causesOf_mapRecords, failingMapReport]

def schemaReports (handler : Handler DeriveCall.Reply σ) (proxy : Proxy) (snapshot : Snapshot)
    (state : σ) : List Report :=
  (outcomesFrom handler proxy snapshot snapshot.schemas state).map fun outcome =>
    ⟨⟨.schema, outcome.1⟩, outcome.2.schemaFailure⟩

theorem reports_deriveEndpoints_eq (state : σ) :
    ((deriveEndpoints proxy snapshot).run handler state).1.reports =
      schemaReports handler proxy snapshot state ++
        (failingMaps proxy snapshot).map (failingMapReport proxy snapshot) := by
  rw [run_deriveEndpoints, ← mapReports_eq handler state]
  rfl

/-- There is just one report on a schema, and it tells what came of the schema. -/
theorem reports_of_schema (distinct : (snapshot.schemas.map Schema.name).Nodup)
    {before after : List Schema} (split : snapshot.schemas = before ++ schema :: after) (state : σ) :
    (((deriveEndpoints proxy snapshot).run handler state).1.reports.filter fun report =>
        report.object = ⟨.schema, schema.name⟩) =
      [⟨⟨.schema, schema.name⟩, (outcomeIn handler proxy snapshot schema
        ((handleSchemas proxy snapshot before).run handler state).2).schemaFailure⟩] := by
  have others : ∀ (schemas : List Schema) (state : σ), schema.name ∉ schemas.map Schema.name →
      ((outcomesFrom handler proxy snapshot schemas state).map fun outcome =>
        (⟨⟨.schema, outcome.1⟩, outcome.2.schemaFailure⟩ : Report)).filter
          (fun report => report.object = ⟨.schema, schema.name⟩) = [] := by
    intro schemas state absent
    rw [← map_fst_outcomesFrom handler proxy snapshot schemas state] at absent
    rw [List.filter_eq_nil_iff]
    intro report member same
    obtain ⟨outcome, belongs, rfl⟩ := List.mem_map.1 member
    have named : outcome.1 = schema.name := by simpa using same
    exact absent (named ▸ List.mem_map_of_mem belongs)
  have maps : ((failingMaps proxy snapshot).map (failingMapReport proxy snapshot)).filter
      (fun report => report.object = ⟨.schema, schema.name⟩) = [] := by
    rw [List.filter_eq_nil_iff]
    intro report member same
    obtain ⟨map, -, rfl⟩ := List.mem_map.1 member
    simp [failingMapReport] at same
  rw [split, List.map_append, List.map_cons, List.nodup_append, List.nodup_cons] at distinct
  obtain ⟨-, ⟨fresh, -⟩, apart⟩ := distinct
  have absent : schema.name ∉ before.map Schema.name := fun member =>
    apart _ member _ List.mem_cons_self rfl
  rw [reports_deriveEndpoints_eq, List.filter_append, maps, List.append_nil, schemaReports, split,
    outcomesFrom_append, List.map_append, List.filter_append, others _ _ absent, List.nil_append,
    outcomesFrom_cons, List.map_cons, List.filter_cons_of_pos (by simp), others _ _ fresh]

/-- Every failure of a derivation is attributed once and to the right object. There is one report
for each schema, which fails for its name, its bootstrap, the map it names or its source and never
for the resolvers; one report for each map of the snapshot that does not build for some schema, with
the causes of all of them; an endpoint for every other schema that names a map; and a failure of the
pass for every registration that fails, which takes nothing from the endpoints and reports. -/
theorem deriveEndpoints_attributes (handler : Handler DeriveCall.Reply σ) (proxy : Proxy)
    (snapshot : Snapshot) (state : σ) :
    let derivation := ((deriveEndpoints proxy snapshot).run handler state).1
    let registrations :=
      ((deriveEndpoints proxy snapshot).steps handler state).filterMap Step.registration?
    ∃ ofSchemas : List Report,
      derivation.reports =
        ofSchemas ++ (failingMaps proxy snapshot).map (failingMapReport proxy snapshot) ∧
      ofSchemas.map Report.object =
        snapshot.schemas.map (fun schema => ⟨.schema, schema.name⟩) ∧
      (∀ position schema report, snapshot.schemas[position]? = some schema →
        ofSchemas[position]? = some report →
        (report.failure.isSome ↔
          ¬ValidName schema.name ∨
          (schema.resolverMap = "" ∧ ∃ failure,
            bootstrapResult handler schema
              (stateBefore handler proxy snapshot snapshot.schemas state position) =
                .error failure) ∨
          (schema.resolverMap ≠ "" ∧ snapshot.map? schema.resolverMap = none) ∨
          ∃ fault, TypeSystem.parse schema.source = .error fault) ∧
        ∀ failure, report.failure = some failure → ¬failure.IsBuild) ∧
      (∀ map ∈ failingMaps proxy snapshot,
        (failingMapReport proxy snapshot map).failure.isSome ∧
        ∃ stored ∈ snapshot.maps, stored.name = map) ∧
      derivation.endpoints = snapshot.schemas.filterMap (endpointOf? proxy snapshot) ∧
      registrations.map Prod.fst = snapshot.schemas.filterMap (servedMap? proxy snapshot) ∧
      derivation.failures = registrations.filterMap registrationFailure? := by
  intro derivation registrations
  have derived : derivation = .ofOutcomes (outcomesFrom handler proxy snapshot snapshot.schemas state) :=
    run_deriveEndpoints state
  have registered : registrations = registrationsFrom handler proxy snapshot snapshot.schemas state :=
    registrations_deriveEndpoints state
  refine ⟨schemaReports handler proxy snapshot state, ?_, ?_, ?_, ?_, ?_, ?_, ?_⟩
  · rw [derived, ← mapReports_eq handler state]
    rfl
  · have names := map_fst_outcomesFrom handler proxy snapshot snapshot.schemas state
    rw [schemaReports, List.map_map]
    have split := congrArg (List.map fun name => (⟨.schema, name⟩ : ObjectRef)) names
    simpa [List.map_map, Function.comp_def] using split
  · intro position schema report found reported
    rw [schemaReports, List.getElem?_map, getElem?_outcomesFrom, found] at reported
    cases reported
    exact ⟨schemaFailure_outcomeIn _, fun failure failed => schemaFailure_not_isBuild failed⟩
  · intro map failing
    have nonempty : (⟨buildCauses proxy snapshot map⟩ : Failures).causes ≠ [] :=
      buildCauses_ne_nil failing
    obtain ⟨failure, gathered⟩ := Failures.toFailure?_eq_some_of_ne_nil nonempty
    exact ⟨by rw [failingMapReport, gathered]; rfl, mem_maps_of_failing failing⟩
  · rw [derived]
    exact filterMap_outcomesFrom (fun _ => endpoint_outcomeIn) _ _
  · rw [registered, map_fst_registrationsFrom]
  · rw [derived, registered, ← failures_registrationsFrom]
    rfl

end GatewayControl
