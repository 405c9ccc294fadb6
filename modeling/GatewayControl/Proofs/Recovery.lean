import GatewayControl.Proofs.Generation
import GatewayControl.Proofs.Names
import GatewayControl.Proofs.Passes
import GatewayControl.Proofs.Skeletons

/-!
What becomes of a schema whose reference was written and whose generated map was not. A pass over
the old snapshot asks for the map again and creates it. A pass over what is stored now finds a
reference to a map that is missing, and reports just that: it never creates the map, however often
it is repeated.
-/

namespace GatewayControl

open GraphQL (TypeSystem)

variable {ω : Type}

def Step.updatedSchema? {σ : Type} : Step WorldCall.Reply σ → Option Schema
  | ⟨_, .store (.updateSchema _), .ok schema, _⟩ => some schema
  | _ => none

def Step.createdMap? {σ : Type} : Step WorldCall.Reply σ → Option ResolverMap
  | ⟨_, .store (.createMap _), .ok map, _⟩ => some map
  | _ => none

/-- What a later pass is over: what is stored when it starts, or a snapshot from before. -/
inductive Observation
  | fresh
  | replayed
deriving DecidableEq

namespace Site

/-- Passes over observations, where `old` is what is replayed. -/
def observe (operator : OperatorHandler ω) (proxy : Proxy) (old : Snapshot) :
    List Observation → Site ω → Site ω
  | [], site => site
  | .fresh :: observations, site =>
    observe operator proxy old observations (pass operator proxy site.store.snapshot site)
  | .replayed :: observations, site =>
    observe operator proxy old observations (pass operator proxy old site)

def Serves (site : Site ω) (schema : String) : Prop :=
  ∃ endpoint ∈ site.table.endpoints, endpoint.schema = schema

end Site

structure Pointed (name source : String) (system : TypeSystem) (store : MemoryStore) : Prop where
  schema : ∃ stored, store.schemas.get? name = some stored ∧
    stored.resolverMap = generatedMapName name ∧ stored.source = source
  skeletal : ∀ map, store.maps.get? (generatedMapName name) = some map →
    map.types = (skeleton (generatedMapName name) system).types

/-- Whether a snapshot asks for a generated map for no other source of a schema. -/
def Snapshot.AsksFor (snapshot : Snapshot) (name source : String) : Prop :=
  ∀ schema ∈ snapshot.schemas, schema.name = name → schema.resolverMap = "" →
    schema.source = source

section

variable {name source : String} {system : TypeSystem} {snapshot : Snapshot}
  {before after store : MemoryStore}

theorem Change.pointed (change : Change snapshot before after)
    (parsed : TypeSystem.parse source = .ok system) (asks : snapshot.AsksFor name source)
    (pointed : Pointed name source system before) : Pointed name source system after := by
  constructor
  · obtain ⟨stored, found, refers, same⟩ := pointed.schema
    obtain ⟨later, kept, sameSource, reference⟩ := change.schema_kept found
    refine ⟨later, kept, ?_, sameSource.trans same⟩
    rcases reference with unchanged | ⟨-, changed⟩
    · exact unchanged.trans refers
    · exact changed
  · intro map found
    cases known : before.maps.get? (generatedMapName name) with
    | some old =>
        obtain ⟨later, kept, same⟩ := change.types_kept known
        rw [kept] at found
        cases found
        exact same.trans (pointed.skeletal old known)
    | none =>
        obtain ⟨schema, member, created, stored, -, unnamed, read, generated, types, -⟩ :=
          change.map_created known found
        have named := generatedMapName_inj generated
        rw [asks schema member named.symm unnamed, parsed] at read
        cases read
        exact types

theorem Pointed.asksFor_snapshot (pointed : Pointed name source system store) :
    ∀ schema ∈ store.snapshot.schemas, schema.name = name → schema.resolverMap ≠ "" := by
  obtain ⟨stored, found, refers, -⟩ := pointed.schema
  intro schema member named
  rw [MemoryStore.eq_of_mem_snapshot found member named, refers]
  exact generatedMapName_ne_empty name

theorem Change.map_present (change : Change snapshot before after)
    (present : ∃ map, before.maps.get? name = some map) : ∃ map, after.maps.get? name = some map := by
  obtain ⟨map, found⟩ := present
  obtain ⟨kept, stays, -⟩ := change.types_kept found
  exact ⟨kept, stays⟩

theorem Change.map_absent (change : Change snapshot before after)
    (unasked : ∀ schema ∈ snapshot.schemas, schema.name = name → schema.resolverMap ≠ "")
    (absent : before.maps.get? (generatedMapName name) = none) :
    after.maps.get? (generatedMapName name) = none := by
  cases found : after.maps.get? (generatedMapName name) with
  | none => rfl
  | some map =>
      obtain ⟨schema, member, created, stored, -, unnamed, -, generated, -⟩ :=
        change.map_created absent found
      exact absurd unnamed (unasked schema member (generatedMapName_inj generated).symm)

theorem Pointed.endpoint_mem (pointed : Pointed name source system store) (valid : ValidName name)
    (parsed : TypeSystem.parse source = .ok system) (proxy : Proxy) {map : ResolverMap}
    (present : store.maps.get? (generatedMapName name) = some map) :
    ⟨name, system, .ofEntries (system.coordinates.map fun coordinate => (coordinate, .null))⟩ ∈
      store.snapshot.schemas.filterMap (endpointOf? proxy store.snapshot) := by
  obtain ⟨stored, found, refers, same⟩ := pointed.schema
  have named : stored.name = name := Catalog.name_of_get? found
  have built := build_skeleton proxy (TypeSystem.parse_distinct parsed)
    (pointed.skeletal map present)
  have mapped : store.snapshot.mapOf? stored = some map := by
    rw [Snapshot.mapOf?_eq_some_iff, named, MemoryStore.map?_snapshot, refers]
    exact ⟨valid, generatedMapName_ne_empty name, present⟩
  refine List.mem_filterMap.2 ⟨stored, MemoryStore.mem_schemas_snapshot.2 (named.symm ▸ found), ?_⟩
  exact endpointOf?_eq_some_iff.2 ⟨map, system, _, mapped, same ▸ parsed, built, by rw [named]⟩

theorem Pointed.endpoint_iff (pointed : Pointed name source system store) (valid : ValidName name)
    (parsed : TypeSystem.parse source = .ok system) (proxy : Proxy) :
    (∃ endpoint ∈ store.snapshot.schemas.filterMap (endpointOf? proxy store.snapshot),
      endpoint.schema = name) ↔
      ∃ map, store.maps.get? (generatedMapName name) = some map := by
  constructor
  · intro served
    obtain ⟨stored, found, refers, -⟩ := pointed.schema
    obtain ⟨endpoint, built⟩ := (MemoryStore.exists_endpoint_iff found proxy).1 served
    obtain ⟨map, -, -, mapped, -⟩ := endpointOf?_eq_some_iff.1 built
    obtain ⟨-, -, present⟩ := Snapshot.mapOf?_eq_some_iff.1 mapped
    rw [MemoryStore.map?_snapshot, refers] at present
    exact ⟨map, present⟩
  · rintro ⟨map, present⟩
    exact ⟨_, pointed.endpoint_mem valid parsed proxy present, rfl⟩

end

namespace Site

variable {operator : OperatorHandler ω} {proxy : Proxy} {name source : String}
  {system : TypeSystem} {snapshot old : Snapshot} {site : Site ω}

theorem pass_keeps (holds : MemoryStore → Prop)
    (kept : ∀ {before after}, Change snapshot before after → holds before → holds after)
    (start : holds site.store) : holds (pass operator proxy snapshot site).store :=
  (passCalls_changes operator proxy snapshot site).keeps holds kept start

theorem pass_adds_no_schema (absent : site.store.schemas.get? name = none) :
    (pass operator proxy snapshot site).store.schemas.get? name = none :=
  pass_keeps (fun store => store.schemas.get? name = none) (fun change => change.schema_absent) absent

theorem pass_keeps_schema {before : Schema} (known : site.store.schemas.get? name = some before) :
    ∃ kept, (pass operator proxy snapshot site).store.schemas.get? name = some kept ∧
      kept.source = before.source ∧ (before.resolverMap ≠ "" → kept.resolverMap ≠ "") := by
  refine pass_keeps (fun store => ∃ kept, store.schemas.get? name = some kept ∧
    kept.source = before.source ∧ (before.resolverMap ≠ "" → kept.resolverMap ≠ "")) ?_
    ⟨before, known, rfl, id⟩
  rintro _ _ change ⟨kept, stays, source, reference⟩
  obtain ⟨next, present, same, changed⟩ := change.schema_kept stays
  refine ⟨next, present, same.trans source, fun referred => ?_⟩
  rcases changed with unchanged | ⟨empty, -⟩
  · rw [unchanged]
    exact reference referred
  · exact absurd empty (reference referred)

theorem bootstrap_creates {schema : Schema} (named : schema.name = name)
    (valid : ValidName name) (parsed : TypeSystem.parse schema.source = .ok system)
    (faultless : site.faults = []) (pointed : Pointed name source system site.store) :
    ∃ map, (((bootstrap schema).run handleStore site).2.store.maps.get? (generatedMapName name)) =
      some map := by
  obtain ⟨stored, found, refers, -⟩ := pointed.schema
  have got : handleStore (.getSchema name) site = (.ok stored, site) := by
    rw [handleStore_eq_of_faultless _ faultless]
    simp only [MemoryStore.handle, MemoryStore.getIn, found]
  rw [bootstrap, parsed, named]
  simp only [Program.run_call, got, refers, skeleton, if_neg (generatedMapName_ne_empty name),
    if_true, createSkeleton]
  have noFault : nameFault (generatedMapName name) = none := validName_generatedMapName valid
  have creates : ∃ map,
      (handleStore (.createMap (skeleton (generatedMapName name) system)) site).2.store.maps.get?
        (generatedMapName name) = some map := by
    rw [handleStore_eq_of_faultless _ faultless]
    cases present : site.store.maps.get? (generatedMapName name) with
    | some map =>
        refine ⟨map, ?_⟩
        simp only [MemoryStore.handle, MemoryStore.createIn, StoredObject.name, skeleton, noFault, present]
    | none =>
        refine ⟨{ skeleton (generatedMapName name) system with version := 1 }, ?_⟩
        simp only [MemoryStore.handle, MemoryStore.createIn, StoredObject.name, skeleton, noFault, present]
        exact Catalog.get?_put_self
  simp only [skeleton] at creates
  split
  · exact creates
  · split <;> exact creates

/-- What the bootstrap of a schema brings about holds after the pass, if what it relies on and what
it brings about are kept by every other call. -/
theorem handleSchemas_establishes {schema : Schema} {schemas : List Schema}
    {start goal : MemoryStore → Prop}
    (members : ∀ other ∈ schemas, other ∈ snapshot.schemas) (member : schema ∈ schemas)
    (valid : ValidName schema.name) (unnamed : schema.resolverMap = "")
    (lasts : ∀ {before after}, Change snapshot before after → start before → start after)
    (stays : ∀ {before after}, Change snapshot before after → goal before → goal after)
    (establishes : ∀ {site : Site ω}, site.faults = [] → start site.store →
      goal ((bootstrap schema).run handleStore site).2.store)
    (faultless : site.faults = []) (starts : start site.store) :
    goal ((handleSchemas proxy snapshot schemas).run
      (deriveHandler handleStore (handleOperator operator)) site).2.store := by
  induction schemas generalizing site with
  | nil => exact (List.not_mem_nil member).elim
  | cons first rest ih =>
      have later := fun other belongs => members other (List.mem_cons_of_mem _ belongs)
      simp only [handleSchemas, Program.run_bind, Program.run_done]
      rcases List.mem_cons.1 member with here | member
      · subst here
        refine (handleSchemas_changes operator proxy later _).keeps goal stays ?_
        have noFault : nameFault schema.name = none := valid
        rw [handleSchema, noFault]
        simp only [unnamed, if_true, Program.run_bind, Program.run_done, Program.run_embed]
        exact establishes faultless starts
      · refine ih later member (faults_run_derive operator _ faultless) ?_
        exact (handleSchema_changes operator proxy (members _ List.mem_cons_self) site).keeps start
          lasts starts

theorem pass_keeps_derived (holds : MemoryStore → Prop)
    (kept : ∀ {before after}, Change snapshot before after → holds before → holds after)
    (afterDeriving : holds (derived operator proxy snapshot site).2.store) :
    holds (pass operator proxy snapshot site).store := by
  have reports : Changes snapshot ((Reporter.writeReports
      (derived operator proxy snapshot site).1.reports).steps handleStore
      (serve (derived operator proxy snapshot site).1.endpoints
        (derived operator proxy snapshot site).2)) := writeReports_changes _ _
  rw [pass_eq]
  exact reports.keeps holds kept afterDeriving

theorem pass_establishes (start goal : MemoryStore → Prop) {schema : Schema}
    (member : schema ∈ snapshot.schemas) (valid : ValidName schema.name)
    (unnamed : schema.resolverMap = "")
    (lasts : ∀ {before after}, Change snapshot before after → start before → start after)
    (stays : ∀ {before after}, Change snapshot before after → goal before → goal after)
    (establishes : ∀ {site : Site ω}, site.faults = [] → start site.store →
      goal ((bootstrap schema).run handleStore site).2.store)
    (faultless : site.faults = []) (starts : start site.store) :
    goal (pass operator proxy snapshot site).store := by
  have handled : goal ((handleSchemas proxy snapshot snapshot.schemas).run
      (deriveHandler handleStore (handleOperator operator)) site).2.store :=
    handleSchemas_establishes (fun _ belongs => belongs) member valid unnamed lasts stays establishes
      faultless starts
  refine pass_keeps_derived goal stays ?_
  simp only [derived, deriveEndpoints, Program.run_bind, Program.run_done]
  exact handled

theorem pass_creates {schema : Schema} (member : schema ∈ snapshot.schemas)
    (named : schema.name = name) (unnamed : schema.resolverMap = "") (valid : ValidName name)
    (same : schema.source = source) (parsed : TypeSystem.parse source = .ok system)
    (asks : snapshot.AsksFor name source) (faultless : site.faults = [])
    (pointed : Pointed name source system site.store) :
    ∃ map, (pass operator proxy snapshot site).store.maps.get? (generatedMapName name) =
      some map :=
  pass_establishes (Pointed name source system)
    (fun store => ∃ map, store.maps.get? (generatedMapName name) = some map) member (named ▸ valid) unnamed (fun change => change.pointed parsed asks)
    (fun change => change.map_present)
    (fun faultless pointed => bootstrap_creates named valid (same ▸ parsed) faultless pointed)
    faultless pointed

theorem observe_pointed (parsed : TypeSystem.parse source = .ok system)
    (asks : old.AsksFor name source) (observations : List Observation)
    (pointed : Pointed name source system site.store) :
    Pointed name source system (observe operator proxy old observations site).store := by
  induction observations generalizing site with
  | nil => exact pointed
  | cons observation observations ih =>
      cases observation with
      | replayed => exact ih (pass_keeps _ (fun change => change.pointed parsed asks) pointed)
      | fresh =>
          refine ih (pass_keeps _ (fun change => change.pointed parsed ?_) pointed)
          intro schema member named unnamed
          exact absurd unnamed (pointed.asksFor_snapshot schema member named)

theorem observe_present (observations : List Observation)
    (present : ∃ map, site.store.maps.get? name = some map) :
    ∃ map, (observe operator proxy old observations site).store.maps.get? name = some map := by
  induction observations generalizing site with
  | nil => exact present
  | cons observation observations ih =>
      cases observation with
      | replayed => exact ih (pass_keeps _ (fun change => change.map_present) present)
      | fresh => exact ih (pass_keeps _ (fun change => change.map_present) present)

/-- A missing map is created by a pass over the old snapshot and by no other. -/
theorem observe_creates_iff {schema : Schema} (member : schema ∈ old.schemas)
    (named : schema.name = name) (unnamed : schema.resolverMap = "") (valid : ValidName name)
    (same : schema.source = source) (parsed : TypeSystem.parse source = .ok system)
    (asks : old.AsksFor name source) (observations : List Observation) (faultless : site.faults = [])
    (pointed : Pointed name source system site.store)
    (absent : site.store.maps.get? (generatedMapName name) = none) :
    (∃ map, (observe operator proxy old observations site).store.maps.get? (generatedMapName name) =
      some map) ↔ .replayed ∈ observations := by
  induction observations generalizing site with
  | nil => simp [observe, absent]
  | cons observation observations ih =>
      cases observation with
      | replayed =>
          have created : ∃ map, (pass operator proxy old site).store.maps.get?
              (generatedMapName name) = some map :=
            pass_creates member named unnamed valid same parsed asks faultless pointed
          exact iff_of_true (observe_present observations created) List.mem_cons_self
      | fresh =>
          have unasked := pointed.asksFor_snapshot
          have asksNow : site.store.snapshot.AsksFor name source :=
            fun schema member named unnamed => absurd unnamed (unasked schema member named)
          have rest := ih (faults_pass operator proxy site.store.snapshot faultless)
            (pass_keeps _ (fun change => change.pointed parsed asksNow) pointed)
            (pass_keeps _ (fun change => change.map_absent unasked) absent)
          simpa [observe] using rest

theorem observe_append (observations more : List Observation) (site : Site ω) :
    observe operator proxy old (observations ++ more) site =
      observe operator proxy old more (observe operator proxy old observations site) := by
  induction observations generalizing site with
  | nil => rfl
  | cons observation observations ih => cases observation <;> exact ih _

/-! The pass that goes only half the way. -/

theorem get?_of_updatedSchema {step : Step WorldCall.Reply (Site ω)} {schema : Schema}
    (handled : handle operator step.call step.before = (step.reply, step.after))
    (updated : step.updatedSchema? = some schema) :
    step.after.store.schemas.get? schema.name = some schema := by
  obtain ⟨before, call, reply, after⟩ := step
  cases call with
  | operator call => cases updated
  | serve endpoints => cases updated
  | store call =>
      cases call with
      | updateSchema asked =>
          obtain ⟨schemas, updates, put⟩ := answers_of_handled handled
          rcases updates.cases with ⟨-, fault, rfl⟩ | ⟨current, -, -, rfl, rfl⟩
          · cases updated
          · cases updated
            rw [put]
            exact Catalog.get?_put_self
      | getSchema | listSchemas | getMap | createMap | updateMap | listMaps => cases updated

theorem get?_eq_none_of_createdMap {step : Step WorldCall.Reply (Site ω)}
    (handled : handle operator step.call step.before = (step.reply, step.after))
    (uncreated : ∀ map, step.createdMap? = some map → map.name ≠ name)
    (absent : step.before.store.maps.get? name = none) : step.after.store.maps.get? name = none := by
  obtain ⟨before, call, reply, after⟩ := step
  cases call with
  | operator call =>
      rw [store_of_handled handled (by simp)]
      exact absent
  | serve endpoints =>
      rw [store_of_handled handled (by simp)]
      exact absent
  | store call =>
      have answers : MemoryStore.Answers call before.store reply after.store :=
        answers_of_handled handled
      simp only at absent ⊢
      cases call with
      | getSchema | listSchemas | getMap | listMaps => rw [answers.2, absent]
      | updateSchema schema =>
          obtain ⟨schemas, -, put⟩ := answers
          rw [put]
          exact absent
      | createMap map =>
          obtain ⟨maps, creates, put⟩ := answers
          rw [put]
          rcases creates.cases with ⟨rfl, -⟩ | ⟨-, -, rfl, rfl⟩
          · exact absent
          · exact (Catalog.get?_put_of_ne (uncreated _ rfl).symm).trans absent
      | updateMap map =>
          obtain ⟨maps, updates, put⟩ := answers
          rw [put]
          rcases updates.cases with ⟨rfl, -⟩ | ⟨current, found, -, -, rfl⟩
          · exact absent
          · refine (Catalog.get?_put_of_ne fun here => ?_).trans absent
            rw [here, StoredObject.name_withVersion, found] at absent
            cases absent

theorem pointed_of_halfway {schema : Schema} (system : TypeSystem)
    (stored : site.store.schemas.get? schema.name = some schema)
    (absent : site.store.maps.get? (generatedMapName schema.name) = none)
    (referred : ∃ updated ∈ ((passCalls proxy snapshot).steps (handle operator) site).filterMap
      Step.updatedSchema?,
      updated.name = schema.name ∧ updated.resolverMap = generatedMapName schema.name)
    (uncreated : ∀ created ∈ ((passCalls proxy snapshot).steps (handle operator) site).filterMap
      Step.createdMap?, created.name ≠ generatedMapName schema.name) :
    Pointed schema.name schema.source system (pass operator proxy snapshot site).store ∧
      (pass operator proxy snapshot site).store.maps.get? (generatedMapName schema.name) = none := by
  have missing : (pass operator proxy snapshot site).store.maps.get?
      (generatedMapName schema.name) = none := by
    refine Program.holds_along (fun point : Site ω => point.store.maps.get?
      (generatedMapName schema.name) = none) absent ?_ _ (Program.end_mem_points _ _ _)
    intro step member before
    refine get?_eq_none_of_createdMap (Program.handled_of_mem_steps member) ?_ before
    exact fun map created => uncreated map (List.mem_filterMap.2 ⟨step, member, created⟩)
  have sourced : ∃ kept, (pass operator proxy snapshot site).store.schemas.get? schema.name =
      some kept ∧ kept.source = schema.source := by
    refine pass_keeps (fun store => ∃ kept, store.schemas.get? schema.name = some kept ∧
      kept.source = schema.source) ?_ ⟨schema, stored, rfl⟩
    rintro before after change ⟨kept, found, same⟩
    obtain ⟨later, stays, sameSource, -⟩ := change.schema_kept found
    exact ⟨later, stays, sameSource.trans same⟩
  have pointing : ∃ kept, (pass operator proxy snapshot site).store.schemas.get? schema.name =
      some kept ∧ kept.resolverMap = generatedMapName schema.name := by
    obtain ⟨updated, listed, named, refers⟩ := referred
    obtain ⟨step, member, made⟩ := List.mem_filterMap.1 listed
    refine Program.holds_since (fun point : Site ω => ∃ kept,
      point.store.schemas.get? schema.name = some kept ∧
        kept.resolverMap = generatedMapName schema.name) member ?_ ?_
    · exact ⟨updated, named ▸ get?_of_updatedSchema (Program.handled_of_mem_steps member) made, refers⟩
    · rintro other belongs ⟨kept, found, same⟩
      obtain ⟨later, stays, -, reference⟩ :=
        (passCalls_changes operator proxy snapshot site other belongs).schema_kept found
      refine ⟨later, stays, ?_⟩
      rcases reference with unchanged | ⟨-, changed⟩
      · exact unchanged.trans same
      · exact changed
  obtain ⟨kept, found, same⟩ := sourced
  obtain ⟨kept', found', refers⟩ := pointing
  cases found.symm.trans found'
  refine ⟨⟨⟨kept, found, refers, same⟩, fun map present => ?_⟩, missing⟩
  cases missing.symm.trans present

end Site

/-- A pass over what is stored wrote the reference of a schema and failed to create its map. Then
the schema is served from its skeleton after later passes, the last of them over what is stored,
exactly if one of them was over the old snapshot. Passes over what is stored alone never end the
failure. -/
theorem recovers_iff_replayed (operator : OperatorHandler ω) (proxy : Proxy) (site : Site ω)
    (schema : Schema) (system : TypeSystem) (observations : List Observation)
    (stored : site.store.schemas.get? schema.name = some schema) (valid : ValidName schema.name)
    (parsed : TypeSystem.parse schema.source = .ok system) (unnamed : schema.resolverMap = "")
    (absent : site.store.maps.get? (generatedMapName schema.name) = none)
    (referred : ∃ updated ∈ ((passCalls proxy site.store.snapshot).steps (Site.handle operator)
      site).filterMap Step.updatedSchema?,
      updated.name = schema.name ∧ updated.resolverMap = generatedMapName schema.name)
    (uncreated : ∀ created ∈ ((passCalls proxy site.store.snapshot).steps (Site.handle operator)
      site).filterMap Step.createdMap?, created.name ≠ generatedMapName schema.name) :
    let halfway := { site.pass operator proxy site.store.snapshot with faults := [] }
    let last := halfway.observe operator proxy site.store.snapshot (observations ++ [.fresh])
    ((∃ map, last.store.maps.get? (generatedMapName schema.name) = some map ∧
        map.types = (skeleton (generatedMapName schema.name) system).types) ∧
      last.Serves schema.name) ↔ .replayed ∈ observations := by
  intro halfway last
  let before := halfway.observe operator proxy site.store.snapshot observations
  have final : last = before.pass operator proxy before.store.snapshot := Site.observe_append _ _ _
  have member : schema ∈ site.store.snapshot.schemas := MemoryStore.mem_schemas_snapshot.2 stored
  have asks : site.store.snapshot.AsksFor schema.name schema.source := by
    rintro other belongs named -
    have own := MemoryStore.mem_schemas_snapshot.1 belongs
    rw [named, stored] at own
    cases own
    rfl
  obtain ⟨pointed, missing⟩ : Pointed schema.name schema.source system halfway.store ∧
      halfway.store.maps.get? (generatedMapName schema.name) = none :=
    Site.pointed_of_halfway system stored absent referred uncreated
  have pointedBefore : Pointed schema.name schema.source system before.store :=
    Site.observe_pointed parsed asks observations pointed
  have pointedLast : Pointed schema.name schema.source system last.store :=
    Site.observe_pointed parsed asks (observations ++ [.fresh]) pointed
  have created : (∃ map, before.store.maps.get? (generatedMapName schema.name) = some map) ↔
      .replayed ∈ observations :=
    Site.observe_creates_iff member rfl unnamed valid rfl parsed asks observations rfl pointed missing
  have served : last.Serves schema.name ↔ .replayed ∈ observations := by
    rw [← created, ← pointedBefore.endpoint_iff valid parsed proxy, Site.Serves, final,
      Site.table_pass]
    rfl
  refine ⟨fun recovered => served.1 recovered.2, fun replayed => ⟨?_, served.2 replayed⟩⟩
  obtain ⟨map, found⟩ : ∃ map, last.store.maps.get? (generatedMapName schema.name) = some map := by
    rw [final]
    exact Site.pass_keeps _ (fun change => change.map_present) (created.2 replayed)
  exact ⟨map, found, pointedLast.skeletal map found⟩

/-- A store with one schema, whose third call fails: the creation of the schema's map. -/
def halfwaySite : Site Unit where
  store := ({} : MemoryStore).putSchema { name := "orders", source := "type Query { total: Int }" }
  faults := [none, none, some (.io "disk full")]
  operator := ()

def halfwayProxy : Proxy := ⟨{ scheme := "http", host := some (.domain "proxy"), path := .segments [""] }⟩

def idleOperator : OperatorHandler Unit := fun _ state => (.ok (), state)

/-- The reference is written, the map is not created, and two passes over what is stored then leave
the map missing and the schema unserved. -/
theorem orders_unserved_after_fresh_passes :
    let schema : Schema :=
      { name := "orders", source := "type Query { total: Int }", version := 1 }
    let steps := (passCalls halfwayProxy halfwaySite.store.snapshot).steps
      (Site.handle idleOperator) halfwaySite
    let halfway := { halfwaySite.pass idleOperator halfwayProxy halfwaySite.store.snapshot with
      faults := [] }
    halfwaySite.store.schemas.get? schema.name = some schema ∧ ValidName schema.name ∧
      (TypeSystem.parse schema.source).toOption.isSome ∧ schema.resolverMap = "" ∧
      halfwaySite.store.maps.get? (generatedMapName schema.name) = none ∧
      (∃ updated ∈ steps.filterMap Step.updatedSchema?,
        updated.name = schema.name ∧ updated.resolverMap = generatedMapName schema.name) ∧
      (∀ created ∈ steps.filterMap Step.createdMap?,
        created.name ≠ generatedMapName schema.name) ∧
      ∀ count ∈ [0, 1, 2],
        let last := halfway.observe idleOperator halfwayProxy {} (List.replicate count .fresh)
        last.store.maps.get? (generatedMapName schema.name) = none ∧
          ∀ endpoint ∈ last.table.endpoints, endpoint.schema ≠ schema.name := by
  decide +kernel

theorem orders_recovers_when_replayed :
    let halfway := { halfwaySite.pass idleOperator halfwayProxy halfwaySite.store.snapshot with
      faults := [] }
    let last := halfway.observe idleOperator halfwayProxy halfwaySite.store.snapshot
      [.fresh, .replayed, .fresh]
    (last.store.maps.get? "orders-resolvers").isSome ∧ last.Serves "orders" := by
  intro halfway last
  cases parsed : TypeSystem.parse "type Query { total: Int }" with
  | error fault =>
      have accepted : (TypeSystem.parse "type Query { total: Int }").toOption.isSome := by
        decide +kernel
      rw [parsed] at accepted
      cases accepted
  | ok system =>
      have recovers := recovers_iff_replayed idleOperator halfwayProxy halfwaySite
        { name := "orders", source := "type Query { total: Int }", version := 1 } system
        [.fresh, .replayed] (by decide +kernel) (by decide) parsed rfl (by decide +kernel)
        (by decide +kernel) (by decide +kernel)
      obtain ⟨⟨map, found, -⟩, served⟩ := recovers.2 (by decide)
      exact ⟨Option.isSome_iff_exists.2 ⟨map, found⟩, served⟩

end GatewayControl
