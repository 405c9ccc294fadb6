import GatewayControl.Proofs.Independence
import GatewayControl.Proofs.Resolvers
import GatewayControl.Proofs.ServedPaths

/-!
From a new schema to a served one. The first pass over what is stored gives the schema a map of
placeholders and a reference to it, and serves nothing for it. The second pass finds both, and serves
the schema with an answer for every field.
-/

namespace GatewayControl

open GraphQL (TypeSystem)

/-! The endpoints of a snapshot. -/

section

variable {proxy : Proxy} {snapshot : Snapshot}

theorem schema_of_endpointOf? {schema : Schema} {endpoint : Endpoint}
    (built : endpointOf? proxy snapshot schema = some endpoint) :
    endpoint.schema = schema.name ∧ ValidName schema.name ∧ schema.resolverMap ≠ "" := by
  obtain ⟨map, system, resolvers, mapped, -, -, rfl⟩ := endpointOf?_eq_some_iff.1 built
  obtain ⟨valid, named, -⟩ := Snapshot.mapOf?_eq_some_iff.1 mapped
  exact ⟨rfl, valid, named⟩

theorem valid_of_mem_endpointsOf {endpoint : Endpoint} (member : endpoint ∈ endpointsOf proxy snapshot) :
    ValidName endpoint.schema := by
  obtain ⟨schema, -, built⟩ := List.mem_filterMap.1 member
  obtain ⟨named, valid, -⟩ := schema_of_endpointOf? built
  exact named ▸ valid

theorem nodup_endpointsOf (distinct : (snapshot.schemas.map Schema.name).Nodup) :
    ((endpointsOf proxy snapshot).map Endpoint.schema).Nodup := by
  rw [List.Nodup, List.pairwise_map] at distinct ⊢
  rw [endpointsOf, List.pairwise_filterMap]
  refine distinct.imp ?_
  intro first second different one built other builtOther same
  rw [(schema_of_endpointOf? built).1, (schema_of_endpointOf? builtOther).1] at same
  exact different same

end

def nullResolvers (system : TypeSystem) : Resolvers :=
  .ofEntries (system.coordinates.map fun coordinate => (coordinate, .null))

theorem get?_nullResolvers {system : TypeSystem} {coordinate : Coordinate} {resolver : Resolver} :
    (nullResolvers system).get? coordinate = some resolver ↔
      resolver = .null ∧ coordinate ∈ system.coordinates := by
  rw [nullResolvers, Resolvers.get?_ofEntries_eq_some_iff]
  · simp [and_comm, eq_comm]
  · intro key one other first second
    obtain ⟨_, _, same⟩ := List.mem_map.1 first
    obtain ⟨_, _, sameOther⟩ := List.mem_map.1 second
    rw [Prod.mk.injEq] at same sameOther
    exact same.2.symm.trans sameOther.2

theorem Settled.accepts {proxy : Proxy} {store : MemoryStore} {name source : String}
    {system : TypeSystem} (settled : Settled proxy store)
    (pointed : Pointed name source system store) (valid : ValidName name)
    (parsed : TypeSystem.parse source = .ok system)
    (present : ∃ map, store.maps.get? (generatedMapName name) = some map) :
    ∃ accepted, store.schemas.get? name = some accepted ∧ accepted.status = .accepted := by
  obtain ⟨stored, found, refers, same⟩ := pointed.schema
  obtain ⟨map, present⟩ := present
  have named : stored.name = name := Catalog.name_of_get? found
  have noFault : nameFault stored.name = none := named ▸ valid
  have approved : verdict? store.snapshot stored = none := by
    rw [verdict?, noFault, MemoryStore.map?_snapshot, refers, present, same, parsed]
    simp
  have member : stored ∈ store.snapshot.schemas := by
    rw [MemoryStore.mem_schemas_snapshot, named]
    exact found
  have reported := settled.reported ⟨⟨.schema, stored.name⟩, verdict? store.snapshot stored⟩
    (List.mem_append_left _ (List.mem_map_of_mem member))
  rw [approved, named] at reported
  simp only [MemoryStore.status?, found, Option.map_some, Option.some.injEq] at reported
  exact ⟨stored, found, reported⟩

variable {ω : Type}

namespace Site

variable {operator : OperatorHandler ω} {proxy : Proxy} {site : Site ω} {schema : Schema}
  {system : TypeSystem}

theorem store_bootstrap (faultless : site.faults = [])
    (stored : site.store.schemas.get? schema.name = some schema) (valid : ValidName schema.name)
    (parsed : TypeSystem.parse schema.source = .ok system) (unnamed : schema.resolverMap = "")
    (absent : site.store.maps.get? (generatedMapName schema.name) = none) :
    ((bootstrap schema).run handleStore site).2.store =
      { schemas := site.store.schemas.put schema.referring
        maps := site.store.maps.put (schema.generated system) } := by
  have updated := MemoryStore.updateIn_of_current
    { schema with resolverMap := generatedMapName schema.name } schema stored rfl
  have noFault : nameFault (generatedMapName schema.name) = none := validName_generatedMapName valid
  rw [(run_store (bootstrap schema) faultless).2, bootstrap, parsed]
  simp only [Program.run_call, MemoryStore.handle, MemoryStore.getIn, stored, unnamed, if_true,
    skeleton, updated, createSkeleton, MemoryStore.createIn, StoredObject.name, noFault, absent,
    Program.run_done]
  rfl

theorem pointed_pass (operator : OperatorHandler ω) (proxy : Proxy) (faultless : site.faults = [])
    (stored : site.store.schemas.get? schema.name = some schema) (valid : ValidName schema.name)
    (parsed : TypeSystem.parse schema.source = .ok system) (unnamed : schema.resolverMap = "")
    (absent : site.store.maps.get? (generatedMapName schema.name) = none) :
    let after := (pass operator proxy site.store.snapshot site).store
    Pointed schema.name schema.source system after ∧
      ∃ map, after.maps.get? (generatedMapName schema.name) = some map := by
  have member : schema ∈ site.store.snapshot.schemas := MemoryStore.mem_schemas_snapshot.2 stored
  have asks : site.store.snapshot.AsksFor schema.name schema.source := by
    intro other belongs named _
    rw [MemoryStore.eq_of_mem_snapshot stored belongs named]
  have agree := agreeAt_derived operator proxy faultless (Catalog.nodup_names_values _) member
  rw [derived_only, run_handleSchema_of_bootstraps ⟨valid, unnamed, system, parsed⟩,
    store_bootstrap faultless stored valid parsed unnamed absent] at agree
  have found := agree.schema.trans Catalog.get?_put_self
  have present := agree.map.trans Catalog.get?_put_self
  have pointed : Pointed schema.name schema.source system
      (derived operator proxy site.store.snapshot site).2.store := by
    refine ⟨⟨schema.referring, found, rfl, rfl⟩, fun map own => ?_⟩
    cases present.symm.trans own
    rfl
  refine ⟨pass_keeps_derived _ (fun change => change.pointed parsed asks) pointed, ?_⟩
  exact pass_keeps_derived _ (fun change => change.map_present) ⟨_, present⟩

theorem mem_endpoints_pass (operator : OperatorHandler ω) (proxy : Proxy) (snapshot : Snapshot)
    (site : Site ω) {endpoint : Endpoint} :
    endpoint ∈ (pass operator proxy snapshot site).table.endpoints ↔
      endpoint ∈ endpointsOf proxy snapshot := by
  rw [table_pass]
  rfl

theorem match?_rootPath_pass (operator : OperatorHandler ω) (proxy : Proxy) (site : Site ω)
    {name : String} (valid : ValidName name) {found : Endpoint × RouteKind} :
    (pass operator proxy site.store.snapshot site).table.match? (rootPath name) = some found ↔
      found.1 ∈ endpointsOf proxy site.store.snapshot ∧ found.1.schema = name ∧
        found.2 = .root := by
  rw [table_pass]
  exact EndpointTable.match?_rootPath (fun _ => valid_of_mem_endpointsOf)
    (nodup_endpointsOf (Catalog.nodup_names_values _)) valid

theorem match?_queryPath_pass (operator : OperatorHandler ω) (proxy : Proxy) (site : Site ω)
    {name : String} {found : Endpoint × RouteKind} :
    (pass operator proxy site.store.snapshot site).table.match? (queryPath name) = some found ↔
      found.1 ∈ endpointsOf proxy site.store.snapshot ∧ found.1.schema = name ∧
        found.2 = .query := by
  rw [table_pass]
  exact EndpointTable.match?_queryPath (fun _ => valid_of_mem_endpointsOf)
    (nodup_endpointsOf (Catalog.nodup_names_values _))

theorem not_mem_endpointsOf (proxy : Proxy)
    (stored : site.store.schemas.get? schema.name = some schema) (unnamed : schema.resolverMap = "") :
    ∀ endpoint ∈ endpointsOf proxy site.store.snapshot, endpoint.schema ≠ schema.name := by
  intro endpoint member named
  obtain ⟨other, belongs, built⟩ := List.mem_filterMap.1 member
  obtain ⟨own, -, referred⟩ := schema_of_endpointOf? built
  rw [MemoryStore.eq_of_mem_snapshot stored belongs (own.symm.trans named)] at referred
  exact referred unnamed

theorem accepted_pass (operator : OperatorHandler ω) (proxy : Proxy) (faultless : site.faults = [])
    {name source : String} (pointed : Pointed name source system site.store)
    (valid : ValidName name) (parsed : TypeSystem.parse source = .ok system)
    (complete : site.store.snapshot.Complete)
    (present : ∃ map, site.store.maps.get? (generatedMapName name) = some map) :
    ∃ accepted, (pass operator proxy site.store.snapshot site).store.schemas.get? name =
      some accepted ∧ accepted.status = .accepted := by
  have asks : site.store.snapshot.AsksFor name source := fun other belongs named empty =>
    absurd empty (pointed.asksFor_snapshot other belongs named)
  have kept : Pointed name source system (pass operator proxy site.store.snapshot site).store :=
    pass_keeps _ (fun change => change.pointed parsed asks) pointed
  have stays : ∃ map, (pass operator proxy site.store.snapshot site).store.maps.get?
      (generatedMapName name) = some map :=
    pass_keeps _ (fun change => change.map_present) present
  exact (settled_pass faultless complete).2.accepts kept valid parsed stays

end Site

/-- A schema that is new in a store is in service after two passes over what is stored, in which no
call of the store fails. The first pass serves nothing for the schema; it leaves a map with
placeholders for just the fields of its object types, and a reference to the map. The second pass
serves the schema under its paths, with null for every field, and leaves it accepted. -/
theorem bootstrap_ends_in_service (operator : OperatorHandler ω) (proxy : Proxy) (site : Site ω)
    (faultless : site.faults = []) (schema : Schema) (system : TypeSystem)
    (stored : site.store.schemas.get? schema.name = some schema) (valid : ValidName schema.name)
    (parsed : TypeSystem.parse schema.source = .ok system) (unnamed : schema.resolverMap = "")
    (absent : site.store.maps.get? (generatedMapName schema.name) = none) :
    let first := site.pass operator proxy site.store.snapshot
    let second := first.pass operator proxy first.store.snapshot
    (∀ endpoint ∈ first.table.endpoints, endpoint.schema ≠ schema.name) ∧
    first.table.match? (rootPath schema.name) = none ∧
    first.table.match? (queryPath schema.name) = none ∧
    (∃ map, first.store.maps.get? (generatedMapName schema.name) = some map ∧
      ∀ coordinate entry, map.field? coordinate.type coordinate.field = some entry ↔
        entry = {} ∧ coordinate ∈ system.coordinates) ∧
    (∃ referring, first.store.schemas.get? schema.name = some referring ∧
      referring.resolverMap = generatedMapName schema.name) ∧
    (∃ endpoint : Endpoint, endpoint.schema = schema.name ∧ endpoint.types = system ∧
      second.table.match? (rootPath schema.name) = some (endpoint, .root) ∧
      second.table.match? (queryPath schema.name) = some (endpoint, .query) ∧
      ∀ coordinate resolver, endpoint.resolvers.get? coordinate = some resolver ↔
        resolver = .null ∧ coordinate ∈ system.coordinates) ∧
    ∃ accepted, second.store.schemas.get? schema.name = some accepted ∧
      accepted.status = .accepted := by
  intro first second
  obtain ⟨pointed, map, present⟩ : Pointed schema.name schema.source system first.store ∧
      ∃ map, first.store.maps.get? (generatedMapName schema.name) = some map :=
    Site.pointed_pass operator proxy faultless stored valid parsed unnamed absent
  have unserved := Site.not_mem_endpointsOf proxy stored unnamed
  have served := pointed.endpoint_mem valid parsed proxy present
  have faultlessFirst : first.faults = [] :=
    Site.faults_pass operator proxy site.store.snapshot faultless
  have complete : first.store.snapshot.Complete := Site.complete_pass faultless
  refine ⟨?_, ?_, ?_, ⟨map, present, ?_⟩, ?_, ?_, ?_⟩
  · intro endpoint member
    exact unserved endpoint ((Site.mem_endpoints_pass operator proxy _ site).1 member)
  · rw [Option.eq_none_iff_forall_not_mem]
    intro found matched
    obtain ⟨member, named, -⟩ := (Site.match?_rootPath_pass operator proxy site valid).1 matched
    exact unserved found.1 member named
  · rw [Option.eq_none_iff_forall_not_mem]
    intro found matched
    obtain ⟨member, named, -⟩ := (Site.match?_queryPath_pass operator proxy site).1 matched
    exact unserved found.1 member named
  · intro coordinate entry
    exact field?_skeleton (TypeSystem.parse_distinct parsed) (pointed.skeletal map present)
  · obtain ⟨referring, found, refers, -⟩ := pointed.schema
    exact ⟨referring, found, refers⟩
  · refine ⟨⟨schema.name, system, nullResolvers system⟩, rfl, rfl, ?_, ?_, ?_⟩
    · exact (Site.match?_rootPath_pass operator proxy first valid).2 ⟨served, rfl, rfl⟩
    · exact (Site.match?_queryPath_pass operator proxy first).2 ⟨served, rfl, rfl⟩
    · intro coordinate resolver
      exact get?_nullResolvers
  · simp only [second]
    exact Site.accepted_pass operator proxy faultlessFirst pointed valid parsed complete
      ⟨map, present⟩

theorem users_in_service_after_two_passes :
    let first := mixedSite.pass idleOperator halfwayProxy mixedSite.store.snapshot
    let second := first.pass idleOperator halfwayProxy first.store.snapshot
    first.table.match? "/users" = none ∧
      (∃ endpoint, second.table.match? "/users/query" = some (endpoint, .query)) ∧
      ∃ accepted, second.store.schemas.get? "users" = some accepted ∧
        accepted.status = .accepted := by
  intro first second
  obtain ⟨system, parsed⟩ : ∃ system, TypeSystem.parse "type Query { name: String }" = .ok system :=
    exists_ok_of_isSome (by decide +kernel)
  obtain ⟨-, unserved, -, -, -, ⟨endpoint, -, -, -, served, -⟩, accepted⟩ :=
    bootstrap_ends_in_service idleOperator halfwayProxy mixedSite rfl
      { name := "users", source := "type Query { name: String }", version := 1 } system
      (by decide +kernel) (by decide) parsed rfl (by decide +kernel)
  exact ⟨unserved, ⟨endpoint, served⟩, accepted⟩

end GatewayControl
