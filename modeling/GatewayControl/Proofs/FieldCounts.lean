import GatewayControl.Proofs.Coherence
import GatewayControl.Proofs.Coverage

/-!
The fields of a type system, the placeholders generated for them and the resolvers built from those,
counted. Fields are kept as they are declared, placeholders and resolvers by coordinate. An extension
cannot repeat a field but a definition can, so the numbers agree exactly if no definition does.
-/

namespace GatewayControl

open GraphQL

section

variable {system : TypeSystem} {map : ResolverMap} {coordinate : Coordinate}

/-! Coordinates of maps. -/

def ResolverMap.coordinates (map : ResolverMap) : List Coordinate :=
  map.types.toList.flatMap fun entry => entry.2.fields.names.map (Coordinate.mk entry.1)

def ResolverMap.fieldCount (map : ResolverMap) : Nat :=
  map.types.values.foldr (fun type count => type.fields.size + count) 0

theorem ResolverMap.length_coordinates : map.coordinates.length = map.fieldCount := by
  rw [coordinates, fieldCount, List.length_flatMap, List.sum_eq_foldr, List.foldr_map, NameMap.values,
    List.foldr_map, NameMap.toList]
  simp only [List.length_map, NameMap.names, NameMap.size]

theorem ResolverMap.nodup_coordinates : map.coordinates.Nodup :=
  GatewayControl.nodup_coordinates map.types fun entry => entry.fields.nodup_names

theorem ResolverMap.mem_coordinates :
    coordinate ∈ map.coordinates ↔ ∃ entry, map.field? coordinate.type coordinate.field = some entry := by
  simp only [coordinates, List.mem_flatMap, List.mem_map, NameMap.mem_names,
    ResolverMap.field?_eq_some_iff]
  constructor
  · rintro ⟨⟨type, fields⟩, placed, field, ⟨entry, stands⟩, rfl⟩
    exact ⟨entry, fields, NameMap.get?_eq_some_iff.2 placed, stands⟩
  · rintro ⟨entry, fields, placed, stands⟩
    exact ⟨(coordinate.type, fields), NameMap.get?_eq_some_iff.1 placed, coordinate.field,
      ⟨entry, stands⟩, rfl⟩

/-- A generated map has one placeholder for each coordinate. -/
theorem fieldCount_skeleton (distinct : (system.objectTypes.map ObjectType.name).Nodup)
    (name : String) : (skeleton name system).fieldCount = system.coordinates.dedup.length := by
  rw [← ResolverMap.length_coordinates]
  refine List.Perm.length_eq ?_
  rw [List.perm_ext_iff_of_nodup ResolverMap.nodup_coordinates (List.nodup_dedup _)]
  intro coordinate
  simp only [ResolverMap.mem_coordinates, field?_skeleton distinct rfl, List.mem_dedup]
  simp

/-! Coordinates of type systems. -/

theorem GraphQL.TypeSystem.length_coordinates : system.coordinates.length = system.fieldCount := by
  rw [coordinates, fieldCount, List.length_flatMap, List.sum_eq_foldr, List.foldr_map]
  simp

theorem GraphQL.TypeSystem.nodup_coordinates_iff
    (distinct : (system.objectTypes.map ObjectType.name).Nodup) :
    system.coordinates.Nodup ↔ ∀ object ∈ system.objectTypes, object.fieldNames.Nodup := by
  have listed : system.coordinates =
      system.objectTypes.flatMap fun object => object.fieldNames.map (Coordinate.mk object.name) := by
    simp only [coordinates, ObjectType.fieldNames, List.map_map]
    rfl
  rw [listed, GatewayControl.nodup_coordinates_iff (List.pairwise_map.1 distinct)]

theorem length_dedup_eq_iff [DecidableEq α] {values : List α} :
    values.dedup.length = values.length ↔ values.Nodup := by
  rw [← List.dedup_eq_self]
  exact ⟨(List.dedup_sublist values).eq_of_length, congrArg List.length⟩

end

/-! Repetitions. -/

def GraphQL.Unrepeated (definitions : List Definition) : Prop :=
  ∀ object ∈ objectDefinitions definitions, object.fieldNames.Nodup

theorem GraphQL.nodup_described_iff {definitions : List Definition}
    (extensible : Extensible definitions) :
    (∀ object ∈ describedObjects definitions, object.fieldNames.Nodup) ↔ Unrepeated definitions := by
  rw [describedObjects, List.forall_mem_map]
  refine forall₂_congr fun object member => ?_
  rw [ObjectType.nodup_adding]
  exact and_iff_left (extensible object member)

/-- The fields of an accepted document, their placeholders and the resolvers built from those are the
same in number exactly if no definition repeats a field. -/
theorem counts_agree_iff_unrepeated {source : String} {system : TypeSystem}
    (parsed : TypeSystem.parse source = .ok system) (proxy : Proxy) (name : String) :
    ∃ definitions, readSchemaDocument source = .ok definitions ∧ Extensible definitions ∧
      ((∀ object ∈ system.objectTypes, object.fieldNames.Nodup) ↔ Unrepeated definitions) ∧
      (skeleton name system).fieldCount = system.coordinates.dedup.length ∧
      ((skeleton name system).fieldCount = system.fieldCount ↔ Unrepeated definitions) ∧
      ∃ resolvers, proxy.build system (skeleton name system) = .ok resolvers ∧
        resolvers.toEntries.length = (skeleton name system).fieldCount := by
  obtain ⟨definitions, read⟩ := TypeSystem.read_of_parse parsed
  obtain ⟨-, extensible, describes⟩ := (TypeSystem.parse_eq_ok_iff read).1 parsed
  have distinct := TypeSystem.parse_distinct parsed
  have placeholders := fieldCount_skeleton distinct name
  have single : (∀ object ∈ system.objectTypes, object.fieldNames.Nodup) ↔ Unrepeated definitions := by
    rw [describes.objectTypes, nodup_described_iff extensible]
  have built : proxy.build system (skeleton name system) = .ok _ :=
    build_skeleton proxy distinct rfl
  refine ⟨definitions, read, extensible, single, placeholders, ?_, _, built, ?_⟩
  · rw [placeholders, ← TypeSystem.length_coordinates, length_dedup_eq_iff,
      TypeSystem.nodup_coordinates_iff distinct, single]
  · rw [placeholders, ← (keys_of_build built).length_eq, List.length_map]

/-- A type with one field of its own and one from an extension. -/
def extendedSource : String :=
  "type Query \x7b total: Int \x7d extend type Query \x7b count: Int \x7d"

theorem extended_fields_counted :
    ∃ system definitions, TypeSystem.parse extendedSource = .ok system ∧
      readSchemaDocument extendedSource = .ok definitions ∧ Unrepeated definitions ∧
      system.fieldCount = 2 ∧ (skeleton "orders-resolvers" system).fieldCount = 2 ∧
      ∃ resolvers, prefixedProxy.build system (skeleton "orders-resolvers" system) = .ok resolvers ∧
        resolvers.toEntries.length = 2 := by
  have accepted : ((TypeSystem.parse extendedSource).toOption.any fun system =>
      system.fieldCount = 2 ∧ (skeleton "orders-resolvers" system).fieldCount = 2) = true := by
    decide +kernel
  obtain ⟨system, parsed, counted⟩ := exists_ok_of_any accepted
  obtain ⟨fields, placeholders⟩ := of_decide_eq_true counted
  obtain ⟨definitions, read, -, -, -, agree, resolvers, built, same⟩ :=
    counts_agree_iff_unrepeated parsed prefixedProxy "orders-resolvers"
  exact ⟨system, definitions, parsed, read, agree.1 (placeholders.trans fields.symm), fields,
    placeholders, resolvers, built, same.trans placeholders⟩

/-- A definition may repeat a field: it counts twice, but there is one placeholder and one resolver. -/
theorem repeated_field_counted_twice :
    ∃ system, TypeSystem.parse "type Query \x7b total: Int total: Int \x7d" = .ok system ∧
      (¬∀ object ∈ system.objectTypes, object.fieldNames.Nodup) ∧ system.fieldCount = 2 ∧
      (skeleton "orders-resolvers" system).fieldCount = 1 ∧
      ∃ resolvers, prefixedProxy.build system (skeleton "orders-resolvers" system) = .ok resolvers ∧
        resolvers.toEntries.length = 1 := by
  have accepted : (
      (TypeSystem.parse "type Query \x7b total: Int total: Int \x7d").toOption.any fun system =>
        (¬∀ object ∈ system.objectTypes, object.fieldNames.Nodup) ∧ system.fieldCount = 2 ∧
          (skeleton "orders-resolvers" system).fieldCount = 1 ∧
          (prefixedProxy.build system (skeleton "orders-resolvers" system)).toOption.any fun resolvers =>
            resolvers.toEntries.length = 1) = true := by
    decide +kernel
  obtain ⟨system, parsed, counted⟩ := exists_ok_of_any accepted
  obtain ⟨repeated, fields, placeholders, builds⟩ := of_decide_eq_true counted
  obtain ⟨resolvers, built, one⟩ := exists_ok_of_any builds
  exact ⟨system, parsed, repeated, fields, placeholders, resolvers, built, of_decide_eq_true one⟩

end GatewayControl
