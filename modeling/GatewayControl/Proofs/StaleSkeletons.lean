import GatewayControl.Proofs.Recovery
import GatewayControl.Proofs.Resolvers

/-!
Maps that are generated from an older source than the one in storage. A pass reads the source from
its snapshot and the reference from storage, so the map fits what is stored exactly as far as an
edit in between left the object types and their fields alone. Else the schema that was just pointed
at its map cannot be served from it.
-/

namespace GatewayControl

open GraphQL (ObjectType TypeSystem)

variable {ω : Type}

structure GraphQL.TypeSystem.SameFields (system older : TypeSystem) : Prop where
  types : ∀ object ∈ older.objectTypes, (system.object? object.name).isSome
  fields : ∀ coordinate, coordinate ∈ system.coordinates ↔ coordinate ∈ older.coordinates

section

variable {system older : TypeSystem} {map : ResolverMap} {name : String}

theorem resolver_skeleton (proxy : Proxy) (distinct : (system.objectTypes.map ObjectType.name).Nodup)
    (generated : map.types = (skeleton name system).types) {coordinate : Coordinate} :
    (∃ resolver, proxy.resolver map coordinate = .ok resolver) ↔ coordinate ∈ system.coordinates := by
  rw [Proxy.resolver]
  cases found : map.field? coordinate.type coordinate.field with
  | none =>
      have absent : coordinate ∉ system.coordinates := fun member => by
        have entry := (field?_skeleton distinct generated).2 ⟨rfl, member⟩
        cases found.symm.trans entry
      simp [absent]
  | some entry =>
      obtain ⟨rfl, member⟩ := (field?_skeleton distinct generated).1 found
      simp [member]

/-- Resolvers for a type system are built from a map that was generated for an older one exactly if
the two have the same fields. -/
theorem build_skeleton_isOk_iff (proxy : Proxy)
    (distinct : (system.objectTypes.map ObjectType.name).Nodup)
    (distinctOlder : (older.objectTypes.map ObjectType.name).Nodup)
    (generated : map.types = (skeleton name older).types) :
    (∃ resolvers, proxy.build system map = .ok resolvers) ↔ system.SameFields older := by
  simp only [build_isOk_iff, resolver_skeleton proxy distinctOlder generated]
  constructor
  · rintro ⟨fits, resolved⟩
    have covered : ∀ object ∈ older.objectTypes, ∃ now, system.object? object.name = some now ∧
        ∀ field ∈ (placeholders object).fields.names, (now.field? field).isSome := by
      intro object declared
      refine fits object.name (placeholders object) ?_
      rw [generated, get?_types_skeleton distinctOlder]
      exact ⟨object, declared, rfl, rfl⟩
    refine ⟨fun object declared => ?_, fun coordinate => ⟨resolved coordinate, fun member => ?_⟩⟩
    · obtain ⟨now, found, -⟩ := covered object declared
      rw [found]
      rfl
    · obtain ⟨object, declared, named, field, own, same⟩ := TypeSystem.mem_coordinates.1 member
      obtain ⟨now, found, has⟩ := covered object declared
      obtain ⟨declaredNow, sameName⟩ := TypeSystem.mem_of_object? found
      have listed : coordinate.field ∈ (placeholders object).fields.names :=
        NameMap.mem_names.2 ⟨{}, get?_placeholders.2 ⟨rfl, field, own, same⟩⟩
      exact TypeSystem.mem_coordinates.2
        ⟨now, declaredNow, sameName.trans named,
          List.mem_map.1 (ObjectType.field?_isSome_iff.1 (has _ listed))⟩
  · rintro ⟨types, fields⟩
    refine ⟨fun type entry placed => ?_, fun coordinate member => (fields coordinate).1 member⟩
    rw [generated, get?_types_skeleton distinctOlder] at placed
    obtain ⟨object, declared, rfl, rfl⟩ := placed
    obtain ⟨now, found⟩ := Option.isSome_iff_exists.1 (types object declared)
    refine ⟨now, found, fun field listed => ?_⟩
    obtain ⟨entry, stands⟩ := NameMap.mem_names.1 listed
    obtain ⟨-, own, belongs, rfl⟩ := get?_placeholders.1 stands
    have member : ⟨object.name, own.name⟩ ∈ system.coordinates :=
      (fields _).2 (TypeSystem.mem_coordinates.2 ⟨object, declared, rfl, own, belongs, rfl⟩)
    obtain ⟨other, declaredNow, named, has⟩ := TypeSystem.mem_coordinates.1 member
    have here := object?_of_mem distinct declaredNow
    rw [named, found, Option.some.injEq] at here
    subst here
    exact ObjectType.field?_isSome_iff.2 (List.mem_map.2 has)

end

namespace Site

variable {operator : OperatorHandler ω} {proxy : Proxy} {snapshot : Snapshot} {site : Site ω}

theorem maps_of_createdMap {step : Step WorldCall.Reply (Site ω)} {map : ResolverMap}
    (handled : handle operator step.call step.before = (step.reply, step.after))
    (created : step.createdMap? = some map) :
    step.before.store.maps.get? map.name = none ∧
      step.after.store.maps.get? map.name = some map := by
  obtain ⟨before, call, reply, after⟩ := step
  cases call with
  | operator call => cases created
  | serve endpoints => cases created
  | store call =>
      cases call with
      | createMap asked =>
          obtain ⟨maps, creates, put⟩ := answers_of_handled handled
          rcases creates.cases with ⟨-, fault, rfl⟩ | ⟨-, absent, rfl, rfl⟩
          · cases created
          · cases created
            rw [put]
            exact ⟨absent, Catalog.get?_put_self⟩
      | getSchema | updateSchema | listSchemas | getMap | updateMap | listMaps => cases created

theorem source_of_pass {name : String} {later : Schema}
    (found : (pass operator proxy snapshot site).store.schemas.get? name = some later) :
    ∃ before, site.store.schemas.get? name = some before ∧ before.source = later.source := by
  cases known : site.store.schemas.get? name with
  | none =>
      cases (pass_adds_no_schema known).symm.trans found
  | some before =>
      obtain ⟨kept, stays, same, -⟩ := pass_keeps_schema known
      cases stays.symm.trans found
      exact ⟨before, rfl, same.symm⟩

/-- After a pass that created a map, the map is the skeleton of a schema of the snapshot, and the
stored schema of that name refers to it. -/
theorem generated_of_createdMap {created : ResolverMap}
    (listed : created ∈ ((passCalls proxy snapshot).steps (handle operator) site).filterMap
      Step.createdMap?) :
    ∃ schema ∈ snapshot.schemas, ∃ system, ValidName schema.name ∧
      created.name = generatedMapName schema.name ∧ TypeSystem.parse schema.source = .ok system ∧
      created.types = (skeleton created.name system).types ∧
      (∃ map, (pass operator proxy snapshot site).store.maps.get? created.name = some map ∧
        map.types = created.types) ∧
      ∃ stored, (pass operator proxy snapshot site).store.schemas.get? schema.name = some stored ∧
        stored.resolverMap = created.name := by
  obtain ⟨step, member, made⟩ := List.mem_filterMap.1 listed
  have changes := passCalls_changes operator proxy snapshot site
  obtain ⟨absent, present⟩ := maps_of_createdMap (Program.handled_of_mem_steps member) made
  obtain ⟨schema, belongs, system, referring, valid, -, parsed, named, types, found, refers⟩ :=
    (changes step member).map_created absent present
  have kept : (∃ map, (pass operator proxy snapshot site).store.maps.get? created.name = some map ∧
      map.types = created.types) ∧
      ∃ stored, (pass operator proxy snapshot site).store.schemas.get? schema.name = some stored ∧
        stored.resolverMap = created.name := by
    refine Program.holds_since (fun point : Site ω =>
      (∃ map, point.store.maps.get? created.name = some map ∧ map.types = created.types) ∧
        ∃ stored, point.store.schemas.get? schema.name = some stored ∧
          stored.resolverMap = created.name) member ?_ ?_
    · exact ⟨⟨created, present, rfl⟩, referring, found, refers⟩
    · rintro other later ⟨⟨map, there, same⟩, stored, stands, reference⟩
      obtain ⟨map', there', same'⟩ := (changes other later).types_kept there
      obtain ⟨stored', stands', -, reference'⟩ := (changes other later).schema_kept stands
      refine ⟨⟨map', there', same'.trans same⟩, stored', stands', ?_⟩
      rcases reference' with unchanged | ⟨-, changed⟩
      · exact unchanged.trans reference
      · exact changed.trans named.symm
  exact ⟨schema, belongs, system, valid, named, parsed, types, kept⟩

end Site

/-- What comes of every map that a pass creates, whatever was edited since its snapshot was taken.
The map has an entry for each field of the object types of the snapshot's source, the stored schema
refers to it, and the next pass serves the schema exactly if the source that was stored has the same
fields. -/
theorem created_serves_iff_sameFields (operator : OperatorHandler ω) (proxy : Proxy)
    (snapshot : Snapshot) (site : Site ω) :
    let after := site.pass operator proxy snapshot
    ∀ created ∈ ((passCalls proxy snapshot).steps (Site.handle operator) site).filterMap
      Step.createdMap?,
      ∃ schema ∈ snapshot.schemas, ∃ system before stored,
        created.name = generatedMapName schema.name ∧
        TypeSystem.parse schema.source = .ok system ∧
        (∀ coordinate, (created.field? coordinate.type coordinate.field).isSome ↔
          coordinate ∈ system.coordinates) ∧
        site.store.schemas.get? schema.name = some before ∧
        after.store.schemas.get? schema.name = some stored ∧
        stored.resolverMap = created.name ∧ stored.source = before.source ∧
        ((after.pass operator proxy after.store.snapshot).Serves schema.name ↔
          ∃ now, TypeSystem.parse before.source = .ok now ∧ now.SameFields system) := by
  intro after created listed
  obtain ⟨schema, belongs, system, valid, generated, parsed, types, ⟨map, present, same⟩, stored,
    found, refers⟩ := Site.generated_of_createdMap listed
  obtain ⟨before, known, source⟩ := Site.source_of_pass found
  have distinct := TypeSystem.parse_distinct parsed
  have entries : ∀ coordinate, (created.field? coordinate.type coordinate.field).isSome ↔
      coordinate ∈ system.coordinates := by
    intro coordinate
    simp [Option.isSome_iff_exists, field?_skeleton distinct types]
  refine ⟨schema, belongs, system, before, stored, generated, parsed, entries, known, found, refers,
    source.symm, ?_⟩
  have mapped : after.store.snapshot.mapOf? stored = some map := by
    have named : stored.name = schema.name := Catalog.name_of_get? found
    rw [Snapshot.mapOf?_eq_some_iff, named, MemoryStore.map?_snapshot, refers]
    refine ⟨valid, ?_, present⟩
    rw [generated]
    exact generatedMapName_ne_empty schema.name
  rw [Site.Serves, Site.table_pass, EndpointTable.ofEndpoints, MemoryStore.exists_endpoint_iff found,
    source]
  constructor
  · rintro ⟨endpoint, built⟩
    obtain ⟨other, now, resolvers, mapped', parsedNow, resolved, -⟩ := endpointOf?_eq_some_iff.1 built
    cases mapped.symm.trans mapped'
    exact ⟨now, parsedNow, (build_skeleton_isOk_iff proxy (TypeSystem.parse_distinct parsedNow)
      distinct (same.trans types)).1 ⟨resolvers, resolved⟩⟩
  · rintro ⟨now, parsedNow, fields⟩
    obtain ⟨resolvers, resolved⟩ := (build_skeleton_isOk_iff proxy
      (TypeSystem.parse_distinct parsedNow) distinct (same.trans types)).2 fields
    exact ⟨_, endpointOf?_eq_some_iff.2 ⟨map, now, resolvers, mapped, parsedNow, resolved, rfl⟩⟩

def takenStore : MemoryStore :=
  ({} : MemoryStore).putSchema { name := "orders", source := "type Query { total: Int }" }

def fieldRenamed : Schema := { name := "orders", source := "type Query { count: Int }", version := 1 }

/-- The field is renamed after the store was read. The pass over what was read then points the edited
schema at a map for the old field, and the next pass cannot serve it. -/
theorem orders_unserved_after_renaming :
    let edited := MemoryStore.handle (.updateSchema fieldRenamed) takenStore
    let site : Site Unit := { store := edited.2, operator := () }
    let steps := (passCalls halfwayProxy takenStore.snapshot).steps (Site.handle idleOperator) site
    let after := site.pass idleOperator halfwayProxy takenStore.snapshot
    let next := after.pass idleOperator halfwayProxy after.store.snapshot
    edited.1.toOption = some { fieldRenamed with version := 2 } ∧
      (∃ updated ∈ steps.filterMap Step.updatedSchema?, updated.name = "orders" ∧
        updated.resolverMap = "orders-resolvers" ∧ updated.source = fieldRenamed.source) ∧
      (∃ created ∈ steps.filterMap Step.createdMap?, created.name = "orders-resolvers" ∧
        (created.field? "Query" "total").isSome ∧ created.field? "Query" "count" = none) ∧
      ∀ endpoint ∈ next.table.endpoints, endpoint.schema ≠ "orders" := by
  decide +kernel

/-- Without an edit the schema is served from its generated map. -/
theorem orders_served_without_renaming :
    let site : Site Unit := { store := takenStore, operator := () }
    let after := site.pass idleOperator halfwayProxy takenStore.snapshot
    (∃ created ∈ ((passCalls halfwayProxy takenStore.snapshot).steps (Site.handle idleOperator)
      site).filterMap Step.createdMap?, created.name = "orders-resolvers") ∧
      (after.pass idleOperator halfwayProxy after.store.snapshot).Serves "orders" := by
  intro site after
  obtain ⟨created, listed, named⟩ : ∃ created ∈ ((passCalls halfwayProxy takenStore.snapshot).steps
      (Site.handle idleOperator) site).filterMap Step.createdMap?,
      created.name = "orders-resolvers" := by
    decide +kernel
  obtain ⟨schema, belongs, system, before, stored, -, parsed, -, known, -, -, -, serves⟩ :=
    created_serves_iff_sameFields idleOperator halfwayProxy takenStore.snapshot site created listed
  have only : ∀ schema ∈ takenStore.snapshot.schemas, schema.name = "orders" := by decide +kernel
  have unchanged : before = schema := by
    have own := MemoryStore.mem_schemas_snapshot.1 belongs
    exact Option.some.inj (known.symm.trans own)
  subst unchanged
  rw [only before belongs] at serves
  refine ⟨⟨created, listed, named⟩, serves.2 ⟨system, parsed, fun object declared => ?_, fun _ => .rfl⟩⟩
  rw [object?_of_mem (TypeSystem.parse_distinct parsed) declared]
  rfl

end GatewayControl
