import GatewayControl.Proofs.Toml.Building

/-!
A document is read as the table that it was written from, with the tables inside each table after
its other values.
-/

namespace GatewayControl.Toml

/-! The statements of a table that fits are writable. -/

theorem mem_ownPairs {entries : Table} {one : Statement} (member : one ∈ ownPairs entries) :
    ∃ entry ∈ entries, entry.2.hasHeaders = false ∧ one = .pair [entry.1] entry.2 := by
  obtain ⟨entry, listed, own⟩ := List.mem_filterMap.1 member
  refine ⟨entry, listed, ?_⟩
  by_cases headed : entry.2.hasHeaders = true
  · simp [headed] at own
  · simp only [headed, Bool.false_eq_true, if_false, Option.some.injEq] at own
    exact ⟨by simpa using headed, own.symm⟩

theorem mem_nestedStatements {path : List String} {entries : Table} {one : Statement}
    (member : one ∈ nestedStatements path entries) :
    ∃ entry ∈ entries, one ∈ entry.2.statements (path ++ [entry.1]) := by
  induction entries with
  | nil => simp [nestedStatements] at member
  | cons entry entries ih =>
      rw [nestedStatements, List.mem_append] at member
      rcases member with here | later
      · exact ⟨entry, List.mem_cons_self, here⟩
      · obtain ⟨next, listed, inside⟩ := ih later
        exact ⟨next, List.mem_cons_of_mem _ listed, inside⟩

theorem mem_elementStatements {path : List String} {items : List Value} {one : Statement}
    (member : one ∈ elementStatements path items) :
    one = .element path ∨ ∃ contents, .table contents ∈ items ∧
      one ∈ ownPairs contents ++ nestedStatements path contents := by
  induction items with
  | nil => simp [elementStatements] at member
  | cons item items ih =>
      have later : one ∈ elementStatements path items → one = .element path ∨
          ∃ contents, .table contents ∈ item :: items ∧
            one ∈ ownPairs contents ++ nestedStatements path contents := by
        intro inside
        rcases ih inside with header | ⟨contents, listed, inside⟩
        · exact .inl header
        · exact .inr ⟨contents, List.mem_cons_of_mem _ listed, inside⟩
      cases item with
      | table contents =>
          rw [elementStatements, List.cons_append, List.cons_append, List.mem_cons,
            List.mem_append] at member
          rcases member with header | inside | inside
          · exact .inl header
          · exact .inr ⟨contents, List.mem_cons_self, inside⟩
          · exact later inside
      | text | integer | boolean | other | array =>
          simp only [elementStatements] at member
          exact later member

theorem contents_writable {room : Nat} {path : List String} {entries : Table}
    (fits : ∀ entry ∈ entries, entry.2.Fits room)
    (inner : ∀ entry ∈ entries, ∀ one ∈ entry.2.statements (path ++ [entry.1]), one.Writable)
    {one : Statement} (member : one ∈ ownPairs entries ++ nestedStatements path entries) :
    one.Writable := by
  rcases List.mem_append.1 member with own | nested
  · obtain ⟨entry, listed, alone, rfl⟩ := mem_ownPairs own
    exact ⟨entry.1, rfl, (fits entry listed).plain_of alone⟩
  · obtain ⟨entry, listed, inside⟩ := mem_nestedStatements nested
    exact inner entry listed one inside

theorem header_writable {path : List String} {name : String} (short : path.length < nestingLimit) :
    path ++ [name] ≠ [] ∧ (path ++ [name]).length ≤ nestingLimit := by
  constructor
  · simp
  · simp only [List.length_append, List.length_singleton]
    omega

theorem Value.Fits.writable {room : Nat} {value : Value} (fits : value.Fits room) :
    (∀ (path : List String) (name : String), path.length + room ≤ nestingLimit →
      ∀ one ∈ value.statements (path ++ [name]), one.Writable) ∧
    ∀ entries, value = .table entries → ∀ path : List String, path.length + room ≤ nestingLimit + 1 →
      ∀ one ∈ ownPairs entries ++ nestedStatements path entries, one.Writable := by
  induction fits with
  | plain plain =>
      constructor
      · intro path name _ one member
        rw [plain.alone.2.2] at member
        cases member
      · rintro entries rfl
        cases plain
  | @table room entries distinct inner ih =>
      have contents : ∀ path : List String, path.length + room ≤ nestingLimit →
          ∀ one ∈ ownPairs entries ++ nestedStatements path entries, one.Writable := by
        intro path short one member
        refine contents_writable inner (fun entry listed => ?_) member
        exact (ih entry listed).1 path entry.1 short
      constructor
      · intro path name short one member
        rw [Value.statements, List.append_assoc, List.mem_append] at member
        rcases member with header | inside
        · split at header
          · cases header
          · rw [List.mem_singleton.1 header]
            exact header_writable (by omega)
        · refine contents (path ++ [name]) ?_ one inside
          simp only [List.length_append, List.length_singleton]
          omega
      · rintro others same path short
        cases same
        exact contents path (by omega)
  | @tables room items nonempty all inner ih =>
      constructor
      · intro path name short one member
        rw [Value.statements] at member
        rcases mem_elementStatements member with rfl | ⟨contents, listed, inside⟩
        · exact header_writable (by omega)
        · refine (ih _ listed).2 contents rfl (path ++ [name]) ?_ one inside
          simp only [List.length_append, List.length_singleton]
          omega
      · intro entries same
        cases same

/-- A table of the values that stored records have is read back from its document. -/
theorem read_write {table : Table} (distinct : (table.map Prod.fst).Nodup)
    (fits : ∀ entry ∈ table, entry.2.Fits nestingLimit) :
    read (write table) = some (tableOf (contentNodes table)) := by
  have whole : Value.Fits (nestingLimit + 1) (.table table) := .table distinct fits
  have writable : ∀ one ∈ table.statements, one.Writable :=
    whole.writable.2 table rfl [] (Nat.le_of_eq (Nat.zero_add _))
  have parsed : Parser.whole statements (write table) = some table.statements := by
    have inside := statements_renderStatements writable
    simp [Parser.whole, write, inside, Parser.atEnd]
  obtain ⟨opened, built⟩ := whole.builds.2 table rfl Place.root
  rw [read_eq, parsed]
  have draft : table.statements.foldlM Draft.add {} = some ⟨opened, contentNodes table⟩ := built
  simp [tableOfStatements, draft]

/-! What is read back. -/

def Value.arranged (value : Value) : Value := value.node.value

def arrangedTable (table : Table) : Table := tableOf (contentNodes table)

theorem Value.Plain.arranged_eq {value : Value} (plain : value.Plain) : value.arranged = value := by
  rw [Value.arranged, plain.alone.2.1, Node.value]

@[simp] theorem Value.arranged_text (value : String) : (Value.text value).arranged = .text value :=
  (Value.Plain.text value).arranged_eq

@[simp] theorem Value.arranged_table (table : Table) :
    (Value.table table).arranged = .table (arrangedTable table) := by
  simp [Value.arranged, Value.node, Node.value, arrangedTable, contentNodes]

theorem find?_tableOf (name : String) (entries : Entries) :
    Table.find? name (tableOf entries) = (Entries.find? name entries).map Node.value := by
  induction entries with
  | nil => rfl
  | cons entry entries ih =>
      obtain ⟨other, node⟩ := entry
      rw [tableOf, Table.find?, Entries.find?]
      split
      · rfl
      · exact ih

theorem find?_contentNodes {table : Table} (distinct : (table.map Prod.fst).Nodup) (name : String) :
    Entries.find? name (contentNodes table) = (Table.find? name table).map Value.node := by
  have own := find?_nodesOf distinct false name
  have nested := find?_nodesOf distinct true name
  rw [contentNodes]
  cases found : Table.find? name table with
  | none =>
      rw [found] at own nested
      rw [Entries.find?_append own, nested]
      rfl
  | some value =>
      rw [found] at own nested
      by_cases headed : value.hasHeaders = true
      · have absent : Entries.find? name (nodesOf false table) = none := by
          simpa [Option.filter_some, headed] using own
        rw [Entries.find?_append absent, nested]
        simp [Option.filter_some, headed]
      · have here : Entries.find? name (nodesOf false table) = some value.node := by
          simpa [Option.filter_some, headed] using own
        rw [Entries.find?_append_some here]
        rfl

theorem find?_arrangedTable {table : Table} (distinct : (table.map Prod.fst).Nodup) (name : String) :
    Table.find? name (arrangedTable table) = (Table.find? name table).map Value.arranged := by
  rw [arrangedTable, find?_tableOf, find?_contentNodes distinct, Option.map_map]
  rfl

theorem tableOf_eq_map (entries : Entries) :
    tableOf entries = entries.map fun entry => (entry.1, entry.2.value) := by
  induction entries with
  | nil => rfl
  | cons entry entries ih =>
      obtain ⟨name, node⟩ := entry
      rw [tableOf, ih, List.map_cons]

theorem nodesOf_all {headed : Bool} {table : Table}
    (all : ∀ entry ∈ table, entry.2.hasHeaders = headed) :
    nodesOf headed table = table.map (fun entry => (entry.1, entry.2.node)) ∧
      nodesOf (!headed) table = [] := by
  induction table with
  | nil => exact ⟨rfl, rfl⟩
  | cons entry table ih =>
      obtain ⟨name, value⟩ := entry
      have own : value.hasHeaders = headed := all _ List.mem_cons_self
      obtain ⟨same, other⟩ := ih fun next member => all next (List.mem_cons_of_mem _ member)
      simp [nodesOf, own, same, other]

theorem arrangedTable_of_headed {table : Table}
    (headed : ∀ entry ∈ table, entry.2.hasHeaders = true) :
    arrangedTable table = table.map fun entry => (entry.1, entry.2.arranged) := by
  obtain ⟨nested, own⟩ := nodesOf_all headed
  rw [Bool.not_true] at own
  rw [arrangedTable, contentNodes, own, nested, List.nil_append, tableOf_eq_map, List.map_map]
  rfl

end GatewayControl.Toml
