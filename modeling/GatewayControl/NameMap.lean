/-!
Finite maps from names to values, kept in the order of the names. The order of names is that of
their UTF-8 bytes, which is the order of their code points. Entries stand in strictly ascending
order, so two maps with the same values for all names are equal.
-/

namespace GatewayControl

structure NameMap (α : Type) where
  entries : List (String × α)
  ascending : entries.Pairwise fun left right => left.1 < right.1
deriving DecidableEq

abbrev NameSet := NameMap Unit

namespace NameMap

theorem lt_or_eq_or_gt (left right : String) : left < right ∨ left = right ∨ right < left := by
  by_cases less : left < right
  · exact .inl less
  · by_cases greater : right < left
    · exact .inr (.inr greater)
    · exact .inr (.inl (String.le_antisymm (String.not_lt.1 greater) (String.not_lt.1 less)))

def empty : NameMap α := ⟨[], .nil⟩

instance : EmptyCollection (NameMap α) := ⟨empty⟩

instance : Inhabited (NameMap α) := ⟨empty⟩

def find (name : String) : List (String × α) → Option α
  | [] => none
  | (other, value) :: rest => if name = other then some value else find name rest

def get? (map : NameMap α) (name : String) : Option α := find name map.entries

def contains (map : NameMap α) (name : String) : Bool := (map.get? name).isSome

instance : Membership String (NameMap α) := ⟨fun map name => map.contains name = true⟩

instance (map : NameMap α) (name : String) : Decidable (name ∈ map) :=
  inferInstanceAs (Decidable (map.contains name = true))

def insertEntry (name : String) (value : α) : List (String × α) → List (String × α)
  | [] => [(name, value)]
  | (other, previous) :: rest =>
    if name = other then (name, value) :: rest
    else if name < other then (name, value) :: (other, previous) :: rest
    else (other, previous) :: insertEntry name value rest

theorem mem_insertEntry {name : String} {value : α} {entry : String × α} :
    ∀ {entries : List (String × α)}, entry ∈ insertEntry name value entries →
      entry = (name, value) ∨ entry ∈ entries
  | [], member => by simpa [insertEntry] using member
  | (other, previous) :: rest, member => by
    rw [insertEntry] at member
    split at member
    · rcases List.mem_cons.1 member with same | member
      · exact .inl same
      · exact .inr (List.mem_cons_of_mem _ member)
    · split at member
      · exact List.mem_cons.1 member
      · rcases List.mem_cons.1 member with same | member
        · exact .inr (same ▸ List.mem_cons_self)
        · rcases mem_insertEntry member with same | member
          · exact .inl same
          · exact .inr (List.mem_cons_of_mem _ member)

theorem pairwise_insertEntry (name : String) (value : α) :
    ∀ {entries : List (String × α)}, (entries.Pairwise fun left right => left.1 < right.1) →
      (insertEntry name value entries).Pairwise fun left right => left.1 < right.1
  | [], _ => List.pairwise_singleton _ _
  | (other, previous) :: rest, ascending => by
    obtain ⟨first, others⟩ := List.pairwise_cons.1 ascending
    rw [insertEntry]
    split
    · rename_i same
      exact List.pairwise_cons.2 ⟨fun entry member => same ▸ first entry member, others⟩
    · split
      · rename_i less
        refine List.pairwise_cons.2 ⟨fun entry member => ?_, ascending⟩
        rcases List.mem_cons.1 member with same | member
        · exact same ▸ less
        · exact String.lt_trans less (first entry member)
      · rename_i different notLess
        refine List.pairwise_cons.2 ⟨fun entry member => ?_, pairwise_insertEntry name value others⟩
        rcases mem_insertEntry member with same | member
        · rcases lt_or_eq_or_gt name other with less | same' | greater
          · exact absurd less notLess
          · exact absurd same' different
          · exact same ▸ greater
        · exact first entry member

def insert (map : NameMap α) (name : String) (value : α) : NameMap α :=
  ⟨insertEntry name value map.entries, pairwise_insertEntry name value map.ascending⟩

theorem find_insertEntry (name other : String) (value : α) :
    ∀ entries : List (String × α),
      find other (insertEntry name value entries) =
        if other = name then some value else find other entries
  | [] => rfl
  | (head, previous) :: rest => by
    rw [insertEntry]
    split
    · rename_i same
      subst same
      by_cases wanted : other = name <;> simp [find, wanted]
    · split
      · simp [find]
      · rename_i different notLess
        rw [find, find_insertEntry name other value rest, find]
        by_cases wanted : other = name
        · subst wanted
          simp [different]
        · simp [wanted]

theorem get?_insert (map : NameMap α) (name other : String) (value : α) :
    (map.insert name value).get? other = if other = name then some value else map.get? other :=
  find_insertEntry name other value map.entries

@[simp] theorem get?_empty (name : String) : (∅ : NameMap α).get? name = none := rfl

/-- The map of the entries, where a later entry of a name replaces an earlier one. -/
def ofList (entries : List (String × α)) : NameMap α :=
  entries.foldl (fun map entry => map.insert entry.1 entry.2) ∅

def toList (map : NameMap α) : List (String × α) := map.entries

def names (map : NameMap α) : List String := map.entries.map Prod.fst

def values (map : NameMap α) : List α := map.entries.map Prod.snd

def size (map : NameMap α) : Nat := map.entries.length

def isEmpty (map : NameMap α) : Bool := map.entries.isEmpty

end NameMap

end GatewayControl
