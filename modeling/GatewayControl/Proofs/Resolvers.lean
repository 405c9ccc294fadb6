import GatewayControl.Proofs.Skeletons
import Mathlib.Data.List.Nodup

/-!
When resolvers can be built from a map, and which. Every entry of the map must be for a field of an
object type, and every such field must have an entry that resolves; the resolvers are then those of
the entries, one for each coordinate.
-/

namespace GatewayControl

open GraphQL (ObjectType TypeSystem)

namespace GraphQL.TypeSystem

variable {system : TypeSystem} {coordinate : Coordinate}

theorem mem_coordinates : coordinate ∈ system.coordinates ↔
    ∃ object ∈ system.objectTypes, object.name = coordinate.type ∧
      ∃ field ∈ object.fields, field.name = coordinate.field := by
  obtain ⟨type, field⟩ := coordinate
  simp [coordinates, and_left_comm, exists_and_left]

theorem mem_of_object? {name : String} {object : ObjectType} (found : system.object? name = some object) :
    object ∈ system.objectTypes ∧ object.name = name :=
  ⟨List.mem_of_find?_eq_some found, by simpa using List.find?_some found⟩

end GraphQL.TypeSystem

theorem field?_skeleton {system : TypeSystem} {map : ResolverMap} {name : String}
    (distinct : (system.objectTypes.map ObjectType.name).Nodup)
    (generated : map.types = (skeleton name system).types) {coordinate : Coordinate}
    {entry : FieldEntry} :
    map.field? coordinate.type coordinate.field = some entry ↔
      entry = {} ∧ coordinate ∈ system.coordinates := by
  simp only [ResolverMap.field?, generated, Option.bind_eq_bind, Option.bind_eq_some_iff,
    get?_types_skeleton distinct, TypeSystem.mem_coordinates]
  constructor
  · rintro ⟨_, ⟨object, declared, named, rfl⟩, placed⟩
    obtain ⟨empty, field, own, same⟩ := get?_placeholders.1 placed
    exact ⟨empty, object, declared, named, field, own, same⟩
  · rintro ⟨empty, object, declared, named, field, own, same⟩
    exact ⟨_, ⟨object, declared, named, rfl⟩, get?_placeholders.2 ⟨empty, field, own, same⟩⟩

/-- Whether every entry of a map is for an object type, and every field of it for a field of that
type. -/
def ResolverMap.Fits (map : ResolverMap) (system : TypeSystem) : Prop :=
  ∀ type entry, map.types.get? type = some entry →
    ∃ object, system.object? type = some object ∧
      ∀ field ∈ entry.fields.names, (object.field? field).isSome

theorem strayEntry_eq_none_iff {system : TypeSystem} {type : String} {entry : TypeEntry} :
    strayEntry system type entry = none ↔
      ∃ object, system.object? type = some object ∧
        ∀ field ∈ entry.fields.names, (object.field? field).isSome := by
  rw [strayEntry]
  cases system.object? type with
  | none => simp
  | some object => simp [Option.isSome_iff_ne_none]

theorem fits_iff {map : ResolverMap} {system : TypeSystem} :
    (map.types.toList.findSome? fun entry => strayEntry system entry.1 entry.2) = none ↔
      map.Fits system := by
  rw [List.findSome?_eq_none_iff]
  constructor
  · intro noStray type entry found
    exact strayEntry_eq_none_iff.1 (noStray (type, entry) (NameMap.get?_eq_some_iff.1 found))
  · intro fits entry member
    exact strayEntry_eq_none_iff.2 (fits _ _ (NameMap.get?_eq_some_iff.2 member))

theorem nodup_coordinates_iff {item : Type} {type : item → String} {names : item → List String}
    {items : List item} (apart : items.Pairwise fun one other => type one ≠ type other) :
    (items.flatMap fun one => (names one).map (Coordinate.mk (type one))).Nodup ↔
      ∀ one ∈ items, (names one).Nodup := by
  have own (one : item) : ((names one).map (Coordinate.mk (type one))).Nodup ↔ (names one).Nodup :=
    List.nodup_map_iff fun _ _ same => (Coordinate.mk.inj same).2
  simp only [List.nodup_flatMap, own, and_iff_left_iff_imp]
  refine fun _ => apart.imp fun {one other} different => List.disjoint_left.2 ?_
  intro coordinate first second
  obtain ⟨_, -, rfl⟩ := List.mem_map.1 first
  obtain ⟨_, -, same⟩ := List.mem_map.1 second
  exact different (Coordinate.mk.inj same).1.symm

theorem nodup_coordinates {table : Type} {names : table → List String} (tables : NameMap table)
    (distinct : ∀ fields, (names fields).Nodup) :
    (tables.toList.flatMap fun entry => (names entry.2).map (Coordinate.mk entry.1)).Nodup := by
  refine (nodup_coordinates_iff ?_).2 fun entry _ => distinct entry.2
  refine tables.ascending.imp fun {left right} less same => ?_
  exact String.lt_irrefl _ (same ▸ less)

namespace Resolvers

theorem get?_insert (resolvers : Resolvers) (coordinate other : Coordinate) (resolver : Resolver) :
    (resolvers.insert coordinate resolver).get? other =
      if other = coordinate then some resolver else resolvers.get? other := by
  obtain ⟨type, field⟩ := coordinate
  obtain ⟨otherType, otherField⟩ := other
  simp only [Resolvers.get?, Resolvers.insert, NameMap.get?_insert, Coordinate.mk.injEq]
  by_cases types : otherType = type
  · subst types
    cases NameMap.get? resolvers otherType <;> simp [NameMap.get?_insert]
  · simp [types]

theorem get?_ofEntries_eq_some_iff {entries : List (Coordinate × Resolver)}
    (single : ∀ coordinate resolver other, (coordinate, resolver) ∈ entries →
      (coordinate, other) ∈ entries → resolver = other)
    {coordinate : Coordinate} {resolver : Resolver} :
    (ofEntries entries).get? coordinate = some resolver ↔ (coordinate, resolver) ∈ entries := by
  rw [ofEntries, @lookup_foldl _ _ _ _ Resolvers.get? _ get?_insert]
  have empty : Resolvers.get? ∅ coordinate = none := rfl
  rw [empty, Option.or_none]
  exact last_entry_iff single

variable {resolvers : Resolvers}

theorem mem_toEntries {coordinate : Coordinate} {resolver : Resolver} :
    (coordinate, resolver) ∈ resolvers.toEntries ↔ resolvers.get? coordinate = some resolver := by
  obtain ⟨type, field⟩ := coordinate
  simp only [Resolvers.get?, Option.bind_eq_bind, Option.bind_eq_some_iff, NameMap.get?_eq_some_iff]
  simp only [toEntries, NameMap.toList, List.mem_flatMap, List.mem_map, Prod.mk.injEq,
    Coordinate.mk.injEq]
  constructor
  · rintro ⟨⟨_, fields⟩, placed, ⟨_, _⟩, stands, ⟨rfl, rfl⟩, rfl⟩
    exact ⟨fields, placed, stands⟩
  · rintro ⟨fields, placed, stands⟩
    exact ⟨(type, fields), placed, (field, resolver), stands, ⟨rfl, rfl⟩, rfl⟩

theorem nodup_toEntries : (resolvers.toEntries.map Prod.fst).Nodup := by
  have keys : resolvers.toEntries.map Prod.fst =
      (NameMap.toList resolvers).flatMap fun entry => entry.2.names.map (Coordinate.mk entry.1) := by
    rw [toEntries, List.map_flatMap]
    simp only [List.map_map, NameMap.names]
    rfl
  rw [keys]
  exact nodup_coordinates resolvers fun fields => fields.nodup_names

end Resolvers

def Proxy.entries [DomainToAscii] (proxy : Proxy) (system : TypeSystem) (map : ResolverMap) :
    Except BuildFault (List (Coordinate × Resolver)) :=
  system.coordinates.mapM fun coordinate => do
    return (coordinate, ← proxy.resolver map coordinate)

section

variable [DomainToAscii] {proxy : Proxy} {system : TypeSystem} {map : ResolverMap}
  {resolvers : Resolvers}

theorem entry_eq_ok_iff {coordinate : Coordinate} {entry : Coordinate × Resolver} :
    (do return (coordinate, ← proxy.resolver map coordinate) : Except BuildFault _) = .ok entry ↔
      entry.1 = coordinate ∧ proxy.resolver map coordinate = .ok entry.2 := by
  cases proxy.resolver map coordinate with
  | error fault => simp [bind, Except.bind]
  | ok resolver => simp [bind, Except.bind, pure, Except.pure, Prod.ext_iff, eq_comm]

theorem build_eq_ok_iff : proxy.build system map = .ok resolvers ↔
    map.Fits system ∧ ∃ entries, proxy.entries system map = .ok entries ∧
      resolvers = .ofEntries entries := by
  rw [Proxy.build, ← fits_iff]
  cases stray : map.types.toList.findSome? fun entry => strayEntry system entry.1 entry.2 with
  | some fault => simp
  | none =>
      change (proxy.entries system map >>= fun entries => pure (Resolvers.ofEntries entries)) = _ ↔ _
      cases proxy.entries system map with
      | error fault => simp [bind, Except.bind]
      | ok entries => simp [bind, Except.bind, pure, Except.pure, eq_comm]

/-- Building succeeds exactly if the map fits the type system and resolves every field of it. -/
theorem build_isOk_iff : (∃ resolvers, proxy.build system map = .ok resolvers) ↔
    map.Fits system ∧
      ∀ coordinate ∈ system.coordinates, ∃ resolver, proxy.resolver map coordinate = .ok resolver := by
  constructor
  · rintro ⟨resolvers, built⟩
    obtain ⟨fits, entries, gathered, -⟩ := build_eq_ok_iff.1 built
    refine ⟨fits, fun coordinate member => ?_⟩
    obtain ⟨entry, -, same⟩ := (mapM_eq_ok gathered).1 coordinate member
    exact ⟨entry.2, (entry_eq_ok_iff.1 same).2⟩
  · rintro ⟨fits, resolves⟩
    obtain ⟨entries, gathered⟩ : ∃ entries, proxy.entries system map = .ok entries := by
      refine mapM_isOk fun coordinate member => ?_
      obtain ⟨resolver, same⟩ := resolves coordinate member
      exact ⟨(coordinate, resolver), entry_eq_ok_iff.2 ⟨rfl, same⟩⟩
    exact ⟨_, build_eq_ok_iff.2 ⟨fits, entries, gathered, rfl⟩⟩

theorem get?_build (built : proxy.build system map = .ok resolvers) {coordinate : Coordinate}
    {resolver : Resolver} :
    resolvers.get? coordinate = some resolver ↔
      coordinate ∈ system.coordinates ∧ proxy.resolver map coordinate = .ok resolver := by
  obtain ⟨-, entries, gathered, rfl⟩ := build_eq_ok_iff.1 built
  obtain ⟨forward, backward⟩ := mapM_eq_ok gathered
  have own : ∀ entry ∈ entries,
      entry.1 ∈ system.coordinates ∧ proxy.resolver map entry.1 = .ok entry.2 := by
    intro entry member
    obtain ⟨other, belongs, same⟩ := backward entry member
    obtain ⟨rfl, resolved⟩ := entry_eq_ok_iff.1 same
    exact ⟨belongs, resolved⟩
  rw [Resolvers.get?_ofEntries_eq_some_iff]
  · constructor
    · exact own (coordinate, resolver)
    · rintro ⟨member, resolved⟩
      obtain ⟨entry, belongs, same⟩ := forward coordinate member
      obtain ⟨rfl, resolved'⟩ := entry_eq_ok_iff.1 same
      cases resolved.symm.trans resolved'
      exact belongs
  · intro key value other first second
    have one := (own _ first).2
    have two := (own _ second).2
    cases one.symm.trans two
    rfl

end

end GatewayControl
