import GatewayControl.Proofs.Changes

/-!
Generated maps in storage. The reference of a schema is written before its map is created, so at no
point of a run is there a generated map that no stored schema refers to. A map that is there keeps
its bindings, and only an empty reference is ever replaced.
-/

namespace GatewayControl

namespace Change

variable {snapshot : Snapshot} {before after : MemoryStore}

/-- Schemas are neither added nor removed. Only an empty reference is replaced, by the name of the
map that is generated for the schema. -/
theorem schema_kept (change : Change snapshot before after) {name : String} {schema : Schema}
    (found : before.schemas.get? name = some schema) :
    ∃ later, after.schemas.get? name = some later ∧ later.source = schema.source ∧
      (later.resolverMap = schema.resolverMap ∨
        schema.resolverMap = "" ∧ later.resolverMap = generatedMapName name) := by
  cases change with
  | same => exact ⟨schema, found, rfl, .inl rfl⟩
  | create | mapStatus => exact ⟨schema, found, rfl, .inl rfl⟩
  | @refer asking stored member valid unnamed present unreferred =>
      have named : stored.name = asking.name := Catalog.name_of_get? present
      simp only [Catalog.get?_put]
      split
      · rename_i here
        have same : name = asking.name := here.trans named
        subst same
        cases present.symm.trans found
        exact ⟨_, rfl, rfl, .inr ⟨unreferred, rfl⟩⟩
      · exact ⟨schema, found, rfl, .inl rfl⟩
  | schemaStatus stored status present =>
      simp only [Catalog.get?_put]
      split
      · rename_i here
        have same : name = stored.name := here
        subst same
        cases present.symm.trans found
        exact ⟨_, rfl, rfl, .inl rfl⟩
      · exact ⟨schema, found, rfl, .inl rfl⟩

theorem schema_absent (change : Change snapshot before after) {name : String}
    (absent : before.schemas.get? name = none) : after.schemas.get? name = none := by
  cases change with
  | same => exact absent
  | create | mapStatus => exact absent
  | @refer asking stored member valid unnamed present unreferred =>
      have named : stored.name = asking.name := Catalog.name_of_get? present
      rw [← named] at present
      refine (Catalog.get?_put_of_ne fun here => ?_).trans absent
      have same : name = stored.name := here
      rw [same, present] at absent
      cases absent
  | schemaStatus stored status present =>
      refine (Catalog.get?_put_of_ne fun here => ?_).trans absent
      have same : name = stored.name := here
      rw [same, present] at absent
      cases absent

theorem types_kept (change : Change snapshot before after) {name : String} {map : ResolverMap}
    (found : before.maps.get? name = some map) :
    ∃ later, after.maps.get? name = some later ∧ later.types = map.types := by
  cases change with
  | same => exact ⟨map, found, rfl⟩
  | refer | schemaStatus => exact ⟨map, found, rfl⟩
  | create member valid unnamed parsed present refers absent =>
      refine ⟨map, (Catalog.get?_put_of_ne fun here => ?_).trans found, rfl⟩
      have same : name = generatedMapName _ := here
      rw [same, absent] at found
      cases found
  | mapStatus stored status present =>
      simp only [Catalog.get?_put]
      split
      · rename_i here
        have same : name = stored.name := here
        subst same
        cases present.symm.trans found
        exact ⟨_, rfl, rfl⟩
      · exact ⟨map, found, rfl⟩

theorem map_created (change : Change snapshot before after) {name : String} {map : ResolverMap}
    (absent : before.maps.get? name = none) (found : after.maps.get? name = some map) :
    ∃ schema ∈ snapshot.schemas, ∃ system stored,
      ValidName schema.name ∧ schema.resolverMap = "" ∧
      GraphQL.TypeSystem.parse schema.source = .ok system ∧
      name = generatedMapName schema.name ∧ map.types = (skeleton name system).types ∧
      after.schemas.get? schema.name = some stored ∧ stored.resolverMap = name := by
  cases change with
  | same | refer | schemaStatus => cases absent.symm.trans found
  | @create schema stored system member valid unnamed parsed present refers unused =>
      simp only [Catalog.get?_put] at found
      split at found
      · rename_i here
        have same : name = generatedMapName schema.name := here
        cases found
        subst same
        exact ⟨schema, member, system, stored, valid, unnamed, parsed, rfl, rfl, present, refers⟩
      · cases absent.symm.trans found
  | mapStatus stored status present =>
      simp only [Catalog.get?_put] at found
      split at found
      · rename_i here
        have same : name = stored.name := here
        rw [same, present] at absent
        cases absent
      · cases absent.symm.trans found

end Change

/-- Whether every map that is new since the start is a generated one that a stored schema refers to. -/
def MemoryStore.Grounded (start store : MemoryStore) : Prop :=
  ∀ name map, store.maps.get? name = some map → start.maps.get? name = none →
    ∃ schema, store.schemas.get? schema.name = some schema ∧ schema.resolverMap = name ∧
      name = generatedMapName schema.name

theorem Change.grounded {snapshot : Snapshot} {start before after : MemoryStore}
    (change : Change snapshot before after) (grounded : start.Grounded before) :
    start.Grounded after := by
  intro name map found new
  cases known : before.maps.get? name with
  | none =>
      obtain ⟨schema, -, system, stored, -, -, -, generated, -, present, refers⟩ :=
        change.map_created known found
      have named : stored.name = schema.name := Catalog.name_of_get? present
      exact ⟨stored, named ▸ present, refers, named ▸ generated⟩
  | some old =>
      obtain ⟨schema, present, refers, generated⟩ := grounded name old known new
      obtain ⟨later, kept, -, reference⟩ := change.schema_kept present
      have named : later.name = schema.name := Catalog.name_of_get? kept
      refine ⟨later, named ▸ kept, ?_, named ▸ generated⟩
      rcases reference with same | ⟨-, changed⟩
      · exact same.trans refers
      · exact changed.trans generated.symm

/-- Passes over any snapshots, any of whose store calls may fail, generate maps only for schemas
that refer to them already: at every point of the run, each map that was not there at its start is
the generated map of a stored schema with a reference to it. No call changes the bindings of a map
or the reference of a schema, but for an empty reference that becomes the name of the schema's
generated map. -/
theorem passes_generate_referenced_maps {ω : Type} (operator : OperatorHandler ω) (proxy : Proxy)
    (snapshots : List Snapshot) (site : Site ω) :
    let run := passes proxy snapshots
    (∀ point ∈ run.points (Site.handle operator) site, ∀ name map,
      point.store.maps.get? name = some map → site.store.maps.get? name = none →
      ∃ schema, point.store.schemas.get? schema.name = some schema ∧
        schema.resolverMap = name ∧ name = generatedMapName schema.name) ∧
    ∀ step ∈ run.steps (Site.handle operator) site,
      (∀ name map, step.before.store.maps.get? name = some map →
        ∃ later, step.after.store.maps.get? name = some later ∧ later.types = map.types) ∧
      (∀ name schema, step.before.store.schemas.get? name = some schema →
        ∃ later, step.after.store.schemas.get? name = some later ∧
          (later.resolverMap = schema.resolverMap ∨
            schema.resolverMap = "" ∧ later.resolverMap = generatedMapName name)) ∧
      ∀ name, step.before.store.schemas.get? name = none →
        step.after.store.schemas.get? name = none := by
  intro run
  constructor
  · refine Program.holds_along (fun point : Site ω => site.store.Grounded point.store) ?_ ?_
    · intro name map found new
      cases new.symm.trans found
    · intro step member grounded
      obtain ⟨snapshot, -, change⟩ := Site.passes_changes operator proxy member
      exact change.grounded grounded
  · intro step member
    obtain ⟨snapshot, -, change⟩ := Site.passes_changes operator proxy member
    refine ⟨fun name map found => change.types_kept found, fun name schema found => ?_,
      fun name absent => change.schema_absent absent⟩
    obtain ⟨later, kept, -, reference⟩ := change.schema_kept found
    exact ⟨later, kept, reference⟩

end GatewayControl
