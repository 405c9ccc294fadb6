import GatewayControl.Store.Memory
import Mathlib.Data.List.Sort

/-!
Finite maps and catalogs through the one question that is asked of them: what stands under a name. A
snapshot of a store in memory has the same answers as the store.
-/

namespace GatewayControl

/-! Tables that are filled entry by entry. -/

section

variable {γ κ ν : Type} [DecidableEq κ]

theorem lookup_foldl {lookup : γ → κ → Option ν} {insert : γ → κ → ν → γ}
    (law : ∀ table key other value,
      lookup (insert table key value) other = if other = key then some value else lookup table other)
    (entries : List (κ × ν)) (table : γ) (key : κ) :
    lookup (entries.foldl (fun table entry => insert table entry.1 entry.2) table) key =
      ((entries.reverse.find? fun entry => entry.1 = key).map Prod.snd).or (lookup table key) := by
  induction entries generalizing table with
  | nil => rfl
  | cons entry entries ih =>
      rw [List.foldl_cons, ih, law, List.reverse_cons, List.find?_append]
      cases later : entries.reverse.find? fun entry => entry.1 = key with
      | some found => rfl
      | none =>
          by_cases same : key = entry.1
          · simp [same]
          · simp [same, Ne.symm same]

/-- If no key has two values, the last entry of a key is as good as any. -/
theorem last_entry_iff {entries : List (κ × ν)}
    (single : ∀ key value other, (key, value) ∈ entries → (key, other) ∈ entries → value = other)
    {key : κ} {value : ν} :
    (entries.reverse.find? fun entry => entry.1 = key).map Prod.snd = some value ↔
      (key, value) ∈ entries := by
  rw [Option.map_eq_some_iff]
  constructor
  · rintro ⟨⟨other, found⟩, first, rfl⟩
    have same : other = key := by simpa using List.find?_some first
    exact same ▸ List.mem_reverse.1 (List.mem_of_find?_eq_some first)
  · intro member
    cases first : entries.reverse.find? fun entry => entry.1 = key with
    | none =>
        have absent := List.find?_eq_none.1 first _ (List.mem_reverse.2 member)
        simp at absent
    | some entry =>
        have same : entry.1 = key := by simpa using List.find?_some first
        have belongs := List.mem_reverse.1 (List.mem_of_find?_eq_some first)
        refine ⟨entry, rfl, single key _ _ ?_ member⟩
        rw [← same]
        exact belongs

end

namespace NameMap

theorem mem_of_find {name : String} {value : α} :
    ∀ {entries : List (String × α)}, find name entries = some value → (name, value) ∈ entries
  | [], found => by cases found
  | (other, first) :: rest, found => by
      rw [find] at found
      split at found
      · rename_i same
        cases found
        exact same ▸ List.mem_cons_self
      · exact List.mem_cons_of_mem _ (mem_of_find found)

theorem find_of_mem {name : String} {value : α} :
    ∀ {entries : List (String × α)}, (entries.Pairwise fun left right => left.1 < right.1) →
      (name, value) ∈ entries → find name entries = some value
  | [], _, member => (List.not_mem_nil member).elim
  | (other, first) :: rest, ascending, member => by
      obtain ⟨before, ascending⟩ := List.pairwise_cons.1 ascending
      rw [find]
      rcases List.mem_cons.1 member with same | member
      · cases same
        rw [if_pos rfl]
      · have less : other < name := before _ member
        have different : name ≠ other := fun same => String.lt_irrefl _ (same ▸ less)
        rw [if_neg different]
        exact find_of_mem ascending member

theorem get?_eq_some_iff {map : NameMap α} {name : String} {value : α} :
    map.get? name = some value ↔ (name, value) ∈ map.entries :=
  ⟨mem_of_find, find_of_mem map.ascending⟩

theorem mem_values {map : NameMap α} {value : α} :
    value ∈ map.values ↔ ∃ name, map.get? name = some value := by
  simp [values, get?_eq_some_iff]

theorem mem_names {map : NameMap α} {name : String} :
    name ∈ map.names ↔ ∃ value, map.get? name = some value := by
  simp [names, get?_eq_some_iff]

theorem mem_insert {map : NameMap α} {name other : String} {value : α} :
    other ∈ map.insert name value ↔ other = name ∨ other ∈ map := by
  change (NameMap.get? _ _).isSome ↔ _ ∨ (NameMap.get? _ _).isSome
  rw [get?_insert]
  by_cases same : other = name <;> simp [same]

theorem eq_of_get? {left right : NameMap α}
    (same : ∀ name, left.get? name = right.get? name) : left = right := by
  have irreflexive : Std.Irrefl fun one two : String × α => one.1 < two.1 :=
    ⟨fun _ => String.lt_irrefl _⟩
  have antisymmetric : Std.Antisymm fun one two : String × α => one.1 < two.1 :=
    ⟨fun _ _ less greater => absurd (String.lt_trans less greater) (String.lt_irrefl _)⟩
  have entries : left.entries = right.entries := by
    refine List.Pairwise.eq_of_mem_iff left.ascending right.ascending ?_
    rintro ⟨name, value⟩
    rw [← get?_eq_some_iff, ← get?_eq_some_iff, same]
  obtain ⟨leftEntries, _⟩ := left
  obtain ⟨rightEntries, _⟩ := right
  cases entries
  rfl

theorem eq_of_mem_iff {left right : NameSet} (same : ∀ name, name ∈ left ↔ name ∈ right) :
    left = right := by
  refine eq_of_get? fun name => ?_
  have marked := Bool.eq_iff_iff.2 (same name)
  change (left.get? name).isSome = (right.get? name).isSome at marked
  cases one : left.get? name <;> cases other : right.get? name <;> simp_all

theorem nodup_names (map : NameMap α) : map.names.Nodup := by
  rw [names, List.Nodup, List.pairwise_map]
  refine map.ascending.imp ?_
  intro left right less same
  exact String.lt_irrefl _ (same ▸ less)

theorem get?_ofList (entries : List (String × α)) (name : String) :
    (ofList entries).get? name =
      (entries.reverse.find? fun entry => entry.1 = name).map Prod.snd := by
  rw [ofList, lookup_foldl get?_insert, get?_empty, Option.or_none]

theorem get?_ofList_eq_some_iff {entries : List (String × α)}
    (single : ∀ name value other, (name, value) ∈ entries → (name, other) ∈ entries → value = other)
    {name : String} {value : α} : (ofList entries).get? name = some value ↔ (name, value) ∈ entries := by
  rw [get?_ofList]
  exact last_entry_iff single

theorem insertEntry_of_find {name : String} {value old : α} :
    ∀ {entries : List (String × α)}, (entries.Pairwise fun left right => left.1 < right.1) →
      find name entries = some old →
      insertEntry name value entries =
        entries.map fun entry => if entry.1 = name then (name, value) else entry
  | [], _, found => nomatch found
  | (other, previous) :: rest, ascending, found => by
      obtain ⟨first, others⟩ := List.pairwise_cons.1 ascending
      rw [insertEntry, List.map_cons]
      by_cases same : name = other
      · have untouched : rest.map (fun entry => if entry.1 = name then (name, value) else entry) =
            rest := by
          refine (List.map_congr_left fun entry member => ?_).trans (List.map_id rest)
          exact if_neg fun here => String.lt_irrefl _ (here.trans same ▸ first entry member)
        rw [if_pos same, if_pos same.symm, untouched]
      · rw [find, if_neg same] at found
        have greater : ¬name < other := fun less =>
          String.lt_irrefl _ (String.lt_trans less (first _ (mem_of_find found)))
        rw [if_neg same, if_neg greater, if_neg (Ne.symm same), insertEntry_of_find others found]

theorem map_values_insert {map : NameMap α} {name : String} {value old : α} {look : α → β}
    (found : map.get? name = some old) (same : look value = look old) :
    (map.insert name value).values.map look = map.values.map look := by
  have entries : (map.insert name value).entries = _ := insertEntry_of_find map.ascending found
  rw [values, entries, values, List.map_map, List.map_map, List.map_map]
  refine List.map_congr_left fun entry member => ?_
  by_cases here : entry.1 = name
  · have own : map.get? name = some entry.2 := here ▸ get?_eq_some_iff.2 member
    cases found.symm.trans own
    simp [here, same]
  · simp [here]

end NameMap

namespace Catalog

variable {α : Type} [StoredObject α] {catalog : Catalog α} {object : α} {name : String}

@[simp] theorem get?_empty : (∅ : Catalog α).get? name = none := rfl

theorem get?_put (catalog : Catalog α) (object : α) (name : String) :
    (catalog.put object).get? name =
      if name = StoredObject.name object then some object else catalog.get? name :=
  NameMap.get?_insert catalog.objects (StoredObject.name object) name object

@[simp] theorem get?_put_self : (catalog.put object).get? (StoredObject.name object) = some object := by
  rw [get?_put, if_pos rfl]

theorem get?_put_of_ne (different : name ≠ StoredObject.name object) :
    (catalog.put object).get? name = catalog.get? name := by
  rw [get?_put, if_neg different]

theorem map_values_put {old : α} {look : α → β}
    (found : catalog.get? (StoredObject.name object) = some old) (same : look object = look old) :
    (catalog.put object).values.map look = catalog.values.map look :=
  NameMap.map_values_insert found same

theorem name_of_get? (found : catalog.get? name = some object) : StoredObject.name object = name :=
  catalog.named name object found

theorem get?_own (found : catalog.get? name = some object) :
    catalog.get? (StoredObject.name object) = some object := by
  rw [name_of_get? found, found]

theorem mem_values : object ∈ catalog.values ↔ catalog.get? (StoredObject.name object) = some object := by
  rw [values, NameMap.mem_values]
  constructor
  · rintro ⟨name, found⟩
    have same := catalog.named name object found
    rw [same]
    exact found
  · exact fun found => ⟨_, found⟩

theorem ascending_names (catalog : Catalog α) :
    (catalog.values.map StoredObject.name).Pairwise fun left right => left < right := by
  have names : catalog.values.map StoredObject.name = catalog.objects.entries.map Prod.fst := by
    rw [values, NameMap.values, List.map_map]
    refine List.map_congr_left fun entry member => ?_
    exact catalog.named _ _ (NameMap.get?_eq_some_iff.2 member)
  rw [names]
  exact List.pairwise_map.2 catalog.objects.ascending

theorem nodup_names_values (catalog : Catalog α) : (catalog.values.map StoredObject.name).Nodup := by
  refine catalog.ascending_names.imp ?_
  intro left right less same
  exact String.lt_irrefl _ (same ▸ less)

theorem find?_values (catalog : Catalog α) (name : String) :
    (catalog.values.find? fun object => StoredObject.name object = name) = catalog.get? name := by
  cases found : catalog.get? name with
  | none =>
      rw [List.find?_eq_none]
      intro object member same
      have same : StoredObject.name object = name := by simpa using same
      rw [mem_values, same, found] at member
      cases member
  | some object =>
      have named := name_of_get? found
      have member : object ∈ catalog.values := mem_values.2 (by rw [named, found])
      cases first : catalog.values.find? fun object => StoredObject.name object = name with
      | none =>
          have absent := List.find?_eq_none.1 first object member
          simp [named] at absent
      | some other =>
          have otherNamed : StoredObject.name other = name := by simpa using List.find?_some first
          have otherMember := mem_values.1 (List.mem_of_find?_eq_some first)
          rw [otherNamed, found] at otherMember
          exact otherMember.symm

end Catalog

namespace MemoryStore

theorem map?_snapshot (store : MemoryStore) (name : String) :
    store.snapshot.map? name = store.maps.get? name :=
  store.maps.find?_values name

theorem mem_schemas_snapshot {store : MemoryStore} {schema : Schema} :
    schema ∈ store.snapshot.schemas ↔ store.schemas.get? schema.name = some schema :=
  Catalog.mem_values

theorem eq_of_mem_snapshot {store : MemoryStore} {name : String} {stored other : Schema}
    (found : store.schemas.get? name = some stored) (member : other ∈ store.snapshot.schemas)
    (named : other.name = name) : other = stored := by
  have own := mem_schemas_snapshot.1 member
  rw [named, found] at own
  exact (Option.some.inj own).symm

end MemoryStore

end GatewayControl
