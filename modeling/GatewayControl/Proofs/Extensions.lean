import GatewayControl.GraphQL.TypeSystem
import GatewayControl.Proofs.Traversal
import Mathlib.Data.List.Nodup

/-!
Extensions of object types. An extension goes to the one object type of its name and puts its fields
after those that are there, as long as none of their names is taken. So the extensions of a document
come to one addition for each object type: the fields of all extensions of its name, in order.
-/

namespace GatewayControl.GraphQL

/-! Additions to one object type. -/

namespace ObjectType

def fieldNames (object : ObjectType) : List String := object.fields.map ObjectField.name

def adding (object : ObjectType) (fields : List ObjectField) : ObjectType :=
  { object with fields := object.fields ++ fields }

def Accepts (object : ObjectType) (fields : List ObjectField) : Prop :=
  (fields.map ObjectField.name).Nodup ∧ ∀ field ∈ fields, field.name ∉ object.fieldNames

variable {object : ObjectType} {first second : List ObjectField}

@[simp] theorem adding_nil : object.adding [] = object := by
  rw [adding, List.append_nil]

theorem adding_adding : (object.adding first).adding second = object.adding (first ++ second) := by
  rw [adding, adding, adding, List.append_assoc]

@[simp] theorem fieldNames_adding :
    (object.adding first).fieldNames = object.fieldNames ++ first.map ObjectField.name :=
  List.map_append

@[simp] theorem accepts_nil : object.Accepts [] := ⟨List.nodup_nil, nofun⟩

theorem accepts_append :
    object.Accepts (first ++ second) ↔ object.Accepts first ∧ (object.adding first).Accepts second := by
  simp only [Accepts, List.map_append, List.nodup_append, fieldNames_adding, List.mem_append, not_or]
  constructor
  · rintro ⟨⟨one, two, apart⟩, fresh⟩
    refine ⟨⟨one, fun field member => fresh field (.inl member)⟩, two, fun field member => ?_⟩
    exact ⟨fresh field (.inr member), fun taken => apart _ taken _ (List.mem_map_of_mem member) rfl⟩
  · rintro ⟨⟨one, fresh⟩, two, later⟩
    refine ⟨⟨one, two, ?_⟩, ?_⟩
    · rintro _ taken _ other rfl
      obtain ⟨field, member, same⟩ := List.mem_map.1 other
      exact (later field member).2 (same ▸ taken)
    · rintro field (member | member)
      · exact fresh field member
      · exact (later field member).1

theorem accepts_singleton {field : ObjectField} :
    object.Accepts [field] ↔ field.name ∉ object.fieldNames := by
  simp [Accepts]

/-- What was declared once, and only what was, can be extended without a repetition. -/
theorem nodup_adding :
    (object.adding first).fieldNames.Nodup ↔ object.fieldNames.Nodup ∧ object.Accepts first := by
  rw [fieldNames_adding, List.nodup_append, Accepts]
  refine and_congr_right fun _ => and_congr_right fun _ => ?_
  constructor
  · intro apart field member taken
    exact apart _ taken _ (List.mem_map_of_mem member) rfl
  · rintro fresh _ taken _ other rfl
    obtain ⟨field, member, same⟩ := List.mem_map.1 other
    exact fresh field member (same ▸ taken)

theorem field?_isSome_iff {name : String} :
    (object.field? name).isSome ↔ name ∈ object.fieldNames := by
  simp [field?, fieldNames]

theorem extend_eq_ok_iff {fields : List ObjectField} {extended : ObjectType} :
    object.extend fields = .ok extended ↔ object.Accepts fields ∧ extended = object.adding fields := by
  induction fields generalizing object with
  | nil => simp [extend, eq_comm]
  | cons field fields ih =>
      rw [← List.singleton_append, accepts_append, accepts_singleton, ← adding_adding,
        List.singleton_append, extend]
      by_cases taken : field.name ∈ object.fieldNames
      · rw [if_pos (field?_isSome_iff.2 taken)]
        simp [taken]
      · rw [if_neg (taken ∘ field?_isSome_iff.1)]
        refine (@ih (object.adding [field])).trans ?_
        simp [taken]

end ObjectType

/-! Additions to a list of object types. -/

def Extension.fieldsFor (extension : Extension) (name : String) : List ObjectField :=
  if extension.type = name then extension.fields else []

def additions (extensions : List Extension) (name : String) : List ObjectField :=
  extensions.flatMap fun extension => extension.fieldsFor name

theorem additions_cons (extension : Extension) (extensions : List Extension) (name : String) :
    additions (extension :: extensions) name =
      extension.fieldsFor name ++ additions extensions name :=
  List.flatMap_cons

theorem Extension.apply_eq_ok_iff {extension : Extension} {objects extended : List ObjectType}
    (distinct : (objects.map ObjectType.name).Nodup) :
    extension.apply objects = .ok extended ↔
      extension.type ∈ objects.map ObjectType.name ∧
        (∀ object ∈ objects, object.Accepts (extension.fieldsFor object.name)) ∧
        extended = objects.map fun object => object.adding (extension.fieldsFor object.name) := by
  induction objects generalizing extended with
  | nil => simp [apply]
  | cons object objects ih =>
      obtain ⟨fresh, distinct⟩ := List.nodup_cons.1 distinct
      rw [apply]
      by_cases own : object.name = extension.type
      · -- No other object type has the name, so the others are left as they are.
        have others : ∀ other ∈ objects, extension.fieldsFor other.name = [] := by
          intro other member
          refine if_neg fun same => fresh ?_
          rw [own, same]
          exact List.mem_map_of_mem member
        have kept : (objects.map fun other => other.adding (extension.fieldsFor other.name)) = objects := by
          refine (List.map_congr_left fun other member => ?_).trans (List.map_id objects)
          rw [others other member, ObjectType.adding_nil]
          rfl
        have accepted : ∀ other ∈ objects, other.Accepts (extension.fieldsFor other.name) := by
          intro other member
          rw [others other member]
          exact ObjectType.accepts_nil
        have here : extension.fieldsFor extension.type = extension.fields := if_pos rfl
        rw [if_pos own]
        simp only [bind_eq_ok_iff, ObjectType.extend_eq_ok_iff, List.map_cons, List.forall_mem_cons,
          own, here, kept, List.mem_cons_self, true_and]
        constructor
        · rintro ⟨_, ⟨accepts, rfl⟩, ⟨⟩⟩
          exact ⟨⟨accepts, accepted⟩, rfl⟩
        · rintro ⟨⟨accepts, -⟩, rfl⟩
          exact ⟨_, ⟨accepts, rfl⟩, rfl⟩
      · have here : extension.fieldsFor object.name = [] := if_neg (Ne.symm own)
        rw [if_neg own]
        simp only [List.forall_mem_cons, List.map_cons, here, ObjectType.accepts_nil, true_and,
          ObjectType.adding_nil]
        simp only [bind_eq_ok_iff, ih distinct, List.mem_cons, Ne.symm own, false_or]
        constructor
        · rintro ⟨_, ⟨named, accepts, rfl⟩, ⟨⟩⟩
          exact ⟨named, accepts, rfl⟩
        · rintro ⟨named, accepts, rfl⟩
          exact ⟨_, ⟨named, accepts, rfl⟩, rfl⟩

theorem names_adding {objects : List ObjectType} (fieldsFor : String → List ObjectField) :
    (objects.map fun object => object.adding (fieldsFor object.name)).map ObjectType.name =
      objects.map ObjectType.name := by
  rw [List.map_map]
  rfl

/-- All extensions can be applied if each names an object type and each object type accepts what they
add to it together. -/
theorem applyExtensions_eq_ok_iff {objects extended : List ObjectType} {extensions : List Extension}
    (distinct : (objects.map ObjectType.name).Nodup) :
    applyExtensions objects extensions = .ok extended ↔
      (∀ extension ∈ extensions, extension.type ∈ objects.map ObjectType.name) ∧
        (∀ object ∈ objects, object.Accepts (additions extensions object.name)) ∧
        extended = objects.map fun object => object.adding (additions extensions object.name) := by
  induction extensions generalizing objects with
  | nil => simp [applyExtensions, additions, pure, Except.pure, eq_comm]
  | cons extension extensions ih =>
      have rest := @ih (objects.map fun object =>
        object.adding (extension.fieldsFor object.name)) (by rw [names_adding]; exact distinct)
      rw [applyExtensions] at rest ⊢
      rw [names_adding, List.forall_mem_map, List.map_map] at rest
      simp only [List.foldlM_cons, bind_eq_ok_iff, Extension.apply_eq_ok_iff distinct, additions_cons,
        ObjectType.accepts_append, ← ObjectType.adding_adding, List.forall_mem_cons]
      constructor
      · rintro ⟨_, ⟨named, accepts, rfl⟩, applied⟩
        obtain ⟨others, later, same⟩ := rest.1 applied
        exact ⟨⟨named, others⟩, fun object member => ⟨accepts object member, later object member⟩, same⟩
      · rintro ⟨⟨named, others⟩, accepts, same⟩
        exact ⟨_, ⟨named, fun object member => (accepts object member).1, rfl⟩,
          rest.2 ⟨others, fun object member => (accepts object member).2, same⟩⟩

end GatewayControl.GraphQL
