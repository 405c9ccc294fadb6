import GatewayControl.Proofs.Catalog
import GatewayControl.Proofs.Coherence
import GatewayControl.Proofs.Traversal
import GatewayControl.Resolver
import GatewayControl.Skeleton

/-!
Generated resolver maps have a placeholder for every field of every object type and nothing else, so
resolvers can always be built from them.
-/

namespace GatewayControl

open GraphQL (ObjectField ObjectType TypeSystem)

theorem find?_of_nodup_map {key : α → String} {values : List α} (distinct : (values.map key).Nodup)
    {value : α} (member : value ∈ values) :
    (values.find? fun other => key other = key value) = some value := by
  induction values with
  | nil => exact (List.not_mem_nil member).elim
  | cons first rest ih =>
      obtain ⟨fresh, distinct⟩ := List.nodup_cons.1 distinct
      rcases List.mem_cons.1 member with same | later
      · simp [same]
      · have different : key first ≠ key value := fun same =>
          fresh (same ▸ List.mem_map_of_mem later)
        rw [List.find?_cons_of_neg (by simpa using different)]
        exact ih distinct later

section

variable {system : TypeSystem} {object : ObjectType}

theorem object?_of_mem (distinct : (system.objectTypes.map ObjectType.name).Nodup)
    (member : object ∈ system.objectTypes) : system.object? object.name = some object :=
  find?_of_nodup_map distinct member

theorem get?_placeholders {field : String} {entry : FieldEntry} :
    (placeholders object).fields.get? field = some entry ↔
      entry = {} ∧ ∃ declared ∈ object.fields, declared.name = field := by
  rw [placeholders, NameMap.get?_ofList_eq_some_iff]
  · rw [List.mem_map]
    constructor
    · rintro ⟨declared, member, same⟩
      cases same
      exact ⟨rfl, declared, member, rfl⟩
    · rintro ⟨rfl, declared, member, rfl⟩
      exact ⟨declared, member, rfl⟩
  · intro name value other first second
    obtain ⟨_, _, same⟩ := List.mem_map.1 first
    obtain ⟨_, _, same'⟩ := List.mem_map.1 second
    rw [Prod.mk.injEq] at same same'
    rw [← same.2, ← same'.2]

theorem get?_types_skeleton (distinct : (system.objectTypes.map ObjectType.name).Nodup)
    {name type : String} {entry : TypeEntry} :
    (skeleton name system).types.get? type = some entry ↔
      ∃ object ∈ system.objectTypes, object.name = type ∧ entry = placeholders object := by
  rw [skeleton, NameMap.get?_ofList_eq_some_iff]
  · simp only [List.mem_map, Prod.mk.injEq, eq_comm]
  · intro name value other first second
    obtain ⟨one, oneMember, same⟩ := List.mem_map.1 first
    obtain ⟨two, twoMember, same'⟩ := List.mem_map.1 second
    rw [Prod.mk.injEq] at same same'
    have found := object?_of_mem distinct oneMember
    rw [same.1, ← same'.1, object?_of_mem distinct twoMember, Option.some.injEq] at found
    rw [← same.2, ← same'.2, found]

end

/-- Resolvers are built from a generated map whatever the fields are: they all answer null. -/
theorem build_skeleton (proxy : Proxy) {system : TypeSystem} {map : ResolverMap} {name : String}
    (distinct : (system.objectTypes.map ObjectType.name).Nodup)
    (generated : map.types = (skeleton name system).types) :
    proxy.build system map =
      .ok (.ofEntries (system.coordinates.map fun coordinate => (coordinate, .null))) := by
  have stray : (map.types.toList.findSome? fun entry => strayEntry system entry.1 entry.2) = none := by
    rw [List.findSome?_eq_none_iff]
    intro entry member
    have stands := NameMap.get?_eq_some_iff.2 member
    rw [generated, get?_types_skeleton distinct] at stands
    obtain ⟨object, declared, named, placed⟩ := stands
    rw [strayEntry, ← named, object?_of_mem distinct declared, placed, Option.map_eq_none_iff,
      List.find?_eq_none]
    intro field used
    obtain ⟨value, stands⟩ := NameMap.mem_names.1 used
    obtain ⟨-, own, belongs, rfl⟩ := get?_placeholders.1 stands
    have has := ObjectType.field?_isSome_iff.2 (List.mem_map_of_mem belongs)
    simpa [Option.ne_none_iff_isSome] using has
  have resolved : ∀ coordinate ∈ system.coordinates,
      proxy.resolver map coordinate = .ok .null := by
    intro coordinate member
    obtain ⟨object, declared, belongs⟩ := List.mem_flatMap.1 member
    obtain ⟨field, own, rfl⟩ := List.mem_map.1 belongs
    have placedType : map.types.get? object.name = some (placeholders object) := by
      rw [generated, get?_types_skeleton distinct]
      exact ⟨object, declared, rfl, rfl⟩
    have placedField : (placeholders object).fields.get? field.name = some {} :=
      get?_placeholders.2 ⟨rfl, field, own, rfl⟩
    simp only [Proxy.resolver, ResolverMap.field?, placedType, placedField, Option.bind_eq_bind,
      Option.bind_some]
  have entries : (system.coordinates.mapM fun coordinate => do
      return (coordinate, ← proxy.resolver map coordinate)) =
        Except.ok (system.coordinates.map fun coordinate => (coordinate, Resolver.null)) := by
    refine mapM_ok fun coordinate member => ?_
    rw [resolved coordinate member]
    rfl
  rw [Proxy.build, stray]
  simp only [entries]
  rfl

end GatewayControl
