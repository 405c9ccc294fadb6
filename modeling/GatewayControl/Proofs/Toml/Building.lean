import GatewayControl.Proofs.Toml.Statement

/-!
Building a table from the statements that it is written with. The statements go through the table
depth first, so each of them adds at the end of the table that it names, and that table is the last
entry of the one it stands in.
-/

namespace GatewayControl.Toml

namespace Entries

theorem find?_append {name : String} {entries : Entries} (absent : find? name entries = none)
    (more : Entries) : find? name (entries ++ more) = find? name more := by
  induction entries with
  | nil => rfl
  | cons entry entries ih =>
      obtain ⟨other, node⟩ := entry
      by_cases same : name = other
      · simp [find?, same] at absent
      · simp only [find?, same, if_false, List.cons_append] at absent ⊢
        exact ih absent

theorem find?_append_some {name : String} {entries : Entries} {node : Node}
    (found : find? name entries = some node) (more : Entries) :
    find? name (entries ++ more) = some node := by
  induction entries with
  | nil => cases found
  | cons entry entries ih =>
      obtain ⟨other, present⟩ := entry
      by_cases same : name = other
      · simpa [find?, same] using found
      · simp only [find?, same, if_false, List.cons_append] at found ⊢
        exact ih found

theorem find?_last {name : String} {entries : Entries} (absent : find? name entries = none)
    (node : Node) : find? name (entries ++ [(name, node)]) = some node := by
  rw [find?_append absent, find?, if_pos rfl]

theorem find?_append_other {name other : String} {entries : Entries}
    (absent : find? name entries = none) (different : name ≠ other) (node : Node) :
    find? name (entries ++ [(other, node)]) = none := by
  rw [find?_append absent, find?, if_neg different, find?]

theorem put_last {name : String} {entries : Entries} (absent : find? name entries = none)
    (node other : Node) : put name node (entries ++ [(name, other)]) = entries ++ [(name, node)] := by
  induction entries with
  | nil => simp [put]
  | cons entry entries ih =>
      obtain ⟨key, value⟩ := entry
      by_cases same : name = key
      · simp [find?, same] at absent
      · simp only [find?, same, if_false] at absent
        simp [put, same, ih absent]

theorem changeLast_append (change : Entries → Option Entries) (earlier : List Entries)
    (last : Entries) :
    changeLast change (earlier ++ [last]) = (change last).map fun changed => earlier ++ [changed] := by
  induction earlier with
  | nil => rfl
  | cons element earlier ih =>
      obtain ⟨next, others, start⟩ : ∃ next others, earlier ++ [last] = next :: others :=
        List.exists_cons_of_ne_nil (by simp)
      rw [List.cons_append, start, changeLast, ← start, ih, Option.map_map]
      · rfl
      · simp

end Entries

open Entries

/-- Whether changes at and below a path of the document are changes of the table there, which `plug`
puts in its place. -/
def Acts (path : List String) (document entries : Entries) (plug : Entries → Entries) : Prop :=
  ∀ change rest, within change (path ++ rest) document = (within change rest entries).map plug

/-- Whether `plug` makes documents that have a table at the path. -/
def Place (path : List String) (plug : Entries → Entries) : Prop :=
  ∀ entries, Acts path (plug entries) entries plug

theorem Place.root : Place [] id := by
  intro entries change rest
  simp

section

variable {path : List String} {document entries : Entries} {plug : Entries → Entries} {name : String}

theorem Acts.below (acts : Acts path document entries plug) {inner : Entries}
    {wrap : Entries → Entries}
    (own : ∀ change rest, within change (name :: rest) entries = (within change rest inner).map wrap) :
    Acts (path ++ [name]) document inner (plug ∘ wrap) := by
  intro change rest
  rw [List.append_assoc, List.singleton_append, acts, own, Option.map_map]

theorem Acts.passage (acts : Acts path document entries plug) (absent : find? name entries = none) :
    Acts (path ++ [name]) document []
      (plug ∘ fun inner => entries ++ [(name, .table .passage inner)]) := by
  refine acts.below fun change rest => ?_
  rw [within, absent]
  cases within change rest [] <;> rfl

theorem Place.table (place : Place path plug) (absent : find? name entries = none) (origin : Origin) :
    Place (path ++ [name]) (plug ∘ fun inner => entries ++ [(name, .table origin inner)]) := by
  intro inner
  refine (place _).below fun change rest => ?_
  rw [within, find?_last absent]
  simp only [put_last absent]
  cases within change rest inner <;> rfl

theorem Place.element (place : Place path plug) (absent : find? name entries = none)
    (earlier : List Entries) :
    Place (path ++ [name]) (plug ∘ fun inner => entries ++ [(name, .tables (earlier ++ [inner]))]) := by
  intro inner
  refine (place _).below fun change rest => ?_
  rw [within, find?_last absent]
  simp only [put_last absent, changeLast_append]
  cases within change rest inner <;> rfl

end

/-! What is built for a table. -/

mutual

def Value.node : Value → Node
  | .table entries =>
    .table (if (ownPairs entries).isEmpty && !entries.isEmpty then .passage else .header)
      (nodesOf false entries ++ nodesOf true entries)
  | .array items =>
    if (Value.array items).hasHeaders then .tables (elementNodes items) else .closed (.array items)
  | value => .closed value

def nodesOf (headed : Bool) : List (String × Value) → List (String × Node)
  | [] => []
  | (name, value) :: entries =>
    if value.hasHeaders = headed then (name, value.node) :: nodesOf headed entries
    else nodesOf headed entries

def elementNodes : List Value → List (List (String × Node))
  | [] => []
  | .table entries :: items => (nodesOf false entries ++ nodesOf true entries) :: elementNodes items
  | _ :: items => elementNodes items

end

def contentNodes (entries : Table) : Entries := nodesOf false entries ++ nodesOf true entries

/-- Whether a value can be written under a key, with at most `room` headers one below the other. -/
inductive Value.Fits : Nat → Value → Prop
  | plain {room : Nat} {value : Value} : value.Plain → Value.Fits room value
  | table {room : Nat} {entries : Table} : (entries.map Prod.fst).Nodup →
      (∀ entry ∈ entries, Value.Fits room entry.2) → Value.Fits (room + 1) (.table entries)
  | tables {room : Nat} {items : List Value} : items ≠ [] → (∀ item ∈ items, item.isTable = true) →
      (∀ item ∈ items, Value.Fits (room + 1) item) → Value.Fits (room + 1) (.array items)

theorem Value.Plain.alone {value : Value} (plain : value.Plain) :
    value.hasHeaders = false ∧ value.node = .closed value ∧ ∀ path, value.statements path = [] := by
  cases plain with
  | text written => exact ⟨rfl, by simp [Value.node], fun _ => by simp [Value.statements]⟩
  | number small => exact ⟨rfl, by simp [Value.node], fun _ => by simp [Value.statements]⟩
  | empty =>
      refine ⟨rfl, ?_, fun _ => ?_⟩
      · rw [Value.node]
        rfl
      · simp [Value.statements, elementStatements]

theorem Value.Fits.plain_of {room : Nat} {value : Value} (fits : value.Fits room)
    (alone : value.hasHeaders = false) : value.Plain := by
  cases fits with
  | plain plain => exact plain
  | table => simp [Value.hasHeaders] at alone
  | tables nonempty all => simp [Value.hasHeaders, nonempty, List.all_eq_true.2 all] at alone

section

variable {path : List String} {plug : Entries → Entries}

/-- Whether no key is taken of the entries that are still to be written, own ones or tables. -/
def Fresh (headed : Bool) (entries : Table) (done : Entries) : Prop :=
  ∀ entry ∈ entries, entry.2.hasHeaders = headed → find? entry.1 done = none

theorem ne_of_new {entries : Table} {name : String} (new : name ∉ entries.map Prod.fst)
    {entry : String × Value} (member : entry ∈ entries) : entry.1 ≠ name := by
  rintro rfl
  exact new (List.mem_map_of_mem member)

theorem Fresh.tail {headed : Bool} {entry : String × Value} {entries : Table} {done : Entries}
    (fresh : Fresh headed (entry :: entries) done) : Fresh headed entries done :=
  fun other member => fresh other (List.mem_cons_of_mem _ member)

theorem Fresh.tail_last {headed : Bool} {name : String} {value : Value} {entries : Table}
    {done : Entries} (fresh : Fresh headed ((name, value) :: entries) done)
    (new : name ∉ entries.map Prod.fst) (node : Node) :
    Fresh headed entries (done ++ [(name, node)]) := by
  intro entry member own
  exact find?_append_other (fresh.tail entry member own) (ne_of_new new member) node

theorem find?_of_new {entries : Table} {name : String} (new : name ∉ entries.map Prod.fst) :
    Table.find? name entries = none := by
  induction entries with
  | nil => rfl
  | cons entry entries ih =>
      obtain ⟨different, new⟩ := List.ne_and_not_mem_of_not_mem_cons new
      rw [Table.find?, if_neg different]
      exact ih new

theorem find?_of_mem {entries : Table} (distinct : (entries.map Prod.fst).Nodup)
    {entry : String × Value} (member : entry ∈ entries) :
    Table.find? entry.1 entries = some entry.2 := by
  induction entries with
  | nil => cases member
  | cons head entries ih =>
      obtain ⟨new, distinct⟩ := List.nodup_cons.1 distinct
      rcases List.mem_cons.1 member with rfl | later
      · rw [Table.find?, if_pos rfl]
      · rw [Table.find?, if_neg (ne_of_new new later)]
        exact ih distinct later

theorem find?_nodesOf {entries : Table} (distinct : (entries.map Prod.fst).Nodup) (headed : Bool)
    (name : String) :
    find? name (nodesOf headed entries) =
      ((Table.find? name entries).filter fun value => value.hasHeaders = headed).map Value.node := by
  induction entries with
  | nil => rfl
  | cons entry entries ih =>
      obtain ⟨other, value⟩ := entry
      obtain ⟨new, distinct⟩ := List.nodup_cons.1 distinct
      have rest := ih distinct
      by_cases same : name = other
      · subst same
        have missing : Table.find? name entries = none := find?_of_new new
        rw [missing] at rest
        by_cases own : value.hasHeaders = headed
        · simp [nodesOf, own, find?, Table.find?, Option.filter_some]
        · simpa [nodesOf, own, Table.find?, Option.filter_some] using rest
      · rw [Table.find?, if_neg same, ← rest, nodesOf]
        split
        · rw [find?, if_neg same]
        · rfl

theorem fresh_nodesOf {entries : Table} (distinct : (entries.map Prod.fst).Nodup) :
    Fresh true entries (nodesOf false entries) := by
  intro entry member headed
  rw [find?_nodesOf distinct, find?_of_mem distinct member]
  simp [headed]

theorem build_ownPairs (place : Place path plug) {entries : Table}
    (distinct : (entries.map Prod.fst).Nodup)
    (plain : ∀ entry ∈ entries, entry.2.hasHeaders = false → entry.2.Plain) {done : Entries}
    (fresh : Fresh false entries done) :
    (ownPairs entries).foldlM Draft.add ⟨path, plug done⟩ =
      some ⟨path, plug (done ++ nodesOf false entries)⟩ := by
  induction entries generalizing done with
  | nil => simp [ownPairs, nodesOf]
  | cons entry entries ih =>
      obtain ⟨name, value⟩ := entry
      obtain ⟨new, distinct⟩ := List.nodup_cons.1 distinct
      have plain' := fun other member => plain other (List.mem_cons_of_mem _ member)
      by_cases headed : value.hasHeaders = true
      · have later := ih distinct plain' fresh.tail
        simpa [ownPairs, nodesOf, headed] using later
      · have alone : value.hasHeaders = false := by simpa using headed
        have absent := fresh _ List.mem_cons_self alone
        have node := (plain _ List.mem_cons_self alone).alone.2.1
        have added : within (addPair value [name]) path (plug done) =
            some (plug (done ++ [(name, .closed value)])) := by
          have acts := place done (addPair value [name]) []
          rw [List.append_nil] at acts
          rw [acts, within, addPair, absent]
          rfl
        have step : Draft.add ⟨path, plug done⟩ (.pair [name] value) =
            some ⟨path, plug (done ++ [(name, .closed value)])⟩ := by
          simp [Draft.add, added]
        have later := ih distinct plain' (fresh.tail_last new (.closed value))
        simp only [ownPairs] at later
        simp [ownPairs, nodesOf, alone, node, List.foldlM_cons, step, later]

def Builds (value : Value) : Prop :=
  ∀ {path : List String} {document entries : Entries} {plug : Entries → Entries} {name : String}
    (opened : List String), Place path plug → Acts path document entries plug →
    find? name entries = none → value.hasHeaders = true →
    ∃ opened', (value.statements (path ++ [name])).foldlM Draft.add ⟨opened, document⟩ =
      some ⟨opened', plug (entries ++ [(name, value.node)])⟩

/-- The tables inside a table come after what is there. They also make the table if it is missing. -/
theorem build_nestedStatements (place : Place path plug) {entries : Table}
    (distinct : (entries.map Prod.fst).Nodup)
    (plain : ∀ entry ∈ entries, entry.2.hasHeaders = false → entry.2.Plain)
    (builds : ∀ entry ∈ entries, Builds entry.2) {document done : Entries}
    (acts : Acts path document done plug) (fresh : Fresh true entries done)
    (there : document = plug done ∨ ∃ entry ∈ entries, entry.2.hasHeaders = true)
    (opened : List String) :
    ∃ opened', (nestedStatements path entries).foldlM Draft.add ⟨opened, document⟩ =
      some ⟨opened', plug (done ++ nodesOf true entries)⟩ := by
  induction entries generalizing document done opened with
  | nil =>
      have same : document = plug done := by simpa using there
      exact ⟨opened, by simp [nestedStatements, nodesOf, same]⟩
  | cons entry entries ih =>
      obtain ⟨name, value⟩ := entry
      obtain ⟨new, distinct⟩ := List.nodup_cons.1 distinct
      have plain' := fun other member => plain other (List.mem_cons_of_mem _ member)
      have builds' : ∀ entry ∈ entries, Builds entry.2 :=
        fun other member => builds other (List.mem_cons_of_mem _ member)
      by_cases headed : value.hasHeaders = true
      · obtain ⟨middle, built⟩ :=
          builds _ List.mem_cons_self opened place acts (fresh _ List.mem_cons_self headed) headed
        have fresh' := fresh.tail_last new value.node
        obtain ⟨last, later⟩ := ih distinct plain' builds' (place _) fresh' (.inl rfl) middle
        refine ⟨last, ?_⟩
        simp [nestedStatements, nodesOf, headed, List.foldlM_append, built, later]
      · have alone : value.hasHeaders = false := by simpa using headed
        have nothing := (plain _ List.mem_cons_self alone).alone.2.2 (path ++ [name])
        have there' : document = plug done ∨ ∃ entry ∈ entries, entry.2.hasHeaders = true := by
          simpa [alone] using there
        obtain ⟨last, later⟩ := ih distinct plain' builds' acts fresh.tail there' opened
        refine ⟨last, ?_⟩
        simp [nestedStatements, nodesOf, alone, nothing, later]

def Fills (entries : Table) : Prop :=
  ∀ {path : List String} {plug : Entries → Entries}, Place path plug →
    ∃ opened, (ownPairs entries ++ nestedStatements path entries).foldlM Draft.add ⟨path, plug []⟩ =
      some ⟨opened, plug (contentNodes entries)⟩

theorem fills {entries : Table} (distinct : (entries.map Prod.fst).Nodup)
    (plain : ∀ entry ∈ entries, entry.2.hasHeaders = false → entry.2.Plain)
    (builds : ∀ entry ∈ entries, Builds entry.2) : Fills entries := by
  intro path plug place
  have nothing : Fresh false entries [] := fun _ _ _ => rfl
  have own := build_ownPairs place distinct plain nothing
  obtain ⟨opened, nested⟩ := build_nestedStatements place distinct plain builds (place _)
    (fresh_nodesOf distinct) (.inl rfl) path
  refine ⟨opened, ?_⟩
  rw [List.nil_append] at own
  simp [List.foldlM_append, own, nested, contentNodes]

theorem add_header {header : List String → Statement} {change : String → Entries → Option Entries}
    (adds : ∀ path name draft, Draft.add draft (header (path ++ [name])) =
      (within (change name) path draft.entries).map (Draft.mk (path ++ [name])))
    {path : List String} {document entries changed : Entries} {plug : Entries → Entries}
    {name : String} (acts : Acts path document entries plug)
    (changes : change name entries = some changed) (opened : List String) :
    Draft.add ⟨opened, document⟩ (header (path ++ [name])) =
      some ⟨path ++ [name], plug changed⟩ := by
  have here := acts (change name) []
  rw [List.append_nil] at here
  rw [adds, here, within, changes]
  rfl

theorem add_table (path : List String) (name : String) (draft : Draft) :
    Draft.add draft (.table (path ++ [name])) =
      (within (openTable name) path draft.entries).map (Draft.mk (path ++ [name])) := by
  simp only [Draft.add, List.getLast?_concat, List.dropLast_concat, Option.bind_eq_bind,
    Option.bind_some]
  cases within (openTable name) path draft.entries <;> rfl

theorem add_element (path : List String) (name : String) (draft : Draft) :
    Draft.add draft (.element (path ++ [name])) =
      (within (openElement name) path draft.entries).map (Draft.mk (path ++ [name])) := by
  simp only [Draft.add, List.getLast?_concat, List.dropLast_concat, Option.bind_eq_bind,
    Option.bind_some]
  cases within (openElement name) path draft.entries <;> rfl

theorem headed_of_ownPairs {entries : Table} (noPairs : ownPairs entries = []) :
    nodesOf false entries = [] ∧ ∀ entry ∈ entries, entry.2.hasHeaders = true := by
  induction entries with
  | nil => exact ⟨rfl, fun _ member => nomatch member⟩
  | cons entry entries ih =>
      obtain ⟨name, value⟩ := entry
      by_cases headed : value.hasHeaders = true
      · have later : ownPairs entries = [] := by simpa [ownPairs, headed] using noPairs
        obtain ⟨nodes, all⟩ := ih later
        refine ⟨by simp [nodesOf, headed, nodes], ?_⟩
        exact List.forall_mem_cons.2 ⟨headed, all⟩
      · simp [ownPairs, headed] at noPairs

theorem Builds.of_table {entries : Table} (distinct : (entries.map Prod.fst).Nodup)
    (plain : ∀ entry ∈ entries, entry.2.hasHeaders = false → entry.2.Plain)
    (builds : ∀ entry ∈ entries, Builds entry.2) : Builds (.table entries) := by
  intro path document done plug name opened place acts absent _
  by_cases headerless : ((ownPairs entries).isEmpty && !entries.isEmpty) = true
  · obtain ⟨noPairs, nonempty⟩ : ownPairs entries = [] ∧ entries ≠ [] := by
      simpa [List.isEmpty_iff] using headerless
    obtain ⟨noNodes, headed⟩ := headed_of_ownPairs noPairs
    obtain ⟨entry, member⟩ := List.exists_mem_of_ne_nil _ nonempty
    obtain ⟨opened', built⟩ := build_nestedStatements (place.table absent .passage) distinct plain builds
      (acts.passage absent) (fun _ _ _ => rfl) (.inr ⟨entry, member, headed entry member⟩) opened
    refine ⟨opened', ?_⟩
    simpa [Value.statements, Value.node, nonempty, noPairs, noNodes] using built
  · have header := add_header add_table acts (by rw [openTable, absent]) opened
    obtain ⟨opened', filled⟩ := fills distinct plain builds (place.table absent .header)
    refine ⟨opened', ?_⟩
    have written : (Value.table entries).statements (path ++ [name]) = .table (path ++ [name]) ::
        (ownPairs entries ++ nestedStatements (path ++ [name]) entries) := by
      simp [Value.statements, headerless]
    have node : (Value.table entries).node = .table .header (contentNodes entries) := by
      rw [Value.node, if_neg headerless, contentNodes]
    rw [written, node, List.foldlM_cons, header]
    exact filled

theorem build_elementStatements {path : List String} {plug : Entries → Entries}
    (place : Place path plug) {entries : Entries} {name : String} (absent : find? name entries = none)
    {items : List Value} (nonempty : items ≠ [])
    (each : ∀ item ∈ items, ∃ contents, item = .table contents ∧ Fills contents)
    {document current : Entries} {earlier : List Entries} (acts : Acts path document current plug)
    (opens : openElement name current = some (entries ++ [(name, .tables (earlier ++ [[]]))]))
    (opened : List String) :
    ∃ opened', (elementStatements (path ++ [name]) items).foldlM Draft.add ⟨opened, document⟩ =
      some ⟨opened', plug (entries ++ [(name, .tables (earlier ++ elementNodes items))])⟩ := by
  induction items generalizing document current earlier opened with
  | nil => exact absurd rfl nonempty
  | cons item items ih =>
      obtain ⟨contents, rfl, fills⟩ := each item List.mem_cons_self
      have header := add_header add_element acts opens opened
      obtain ⟨middle, filled⟩ := fills (place.element absent earlier)
      have first : (Statement.element (path ++ [name]) ::
          (ownPairs contents ++ nestedStatements (path ++ [name]) contents)).foldlM Draft.add
            ⟨opened, document⟩ =
          some ⟨middle, plug (entries ++ [(name, .tables (earlier ++ [contentNodes contents]))])⟩ := by
        rw [List.foldlM_cons, header]
        exact filled
      have written : elementStatements (path ++ [name]) (.table contents :: items) =
          (.element (path ++ [name]) ::
            (ownPairs contents ++ nestedStatements (path ++ [name]) contents)) ++
              elementStatements (path ++ [name]) items := by
        simp [elementStatements]
      by_cases last : items = []
      · subst last
        refine ⟨middle, ?_⟩
        rw [written, elementStatements, List.append_nil, first, elementNodes, elementNodes]
        rfl
      · have next : openElement name
            (entries ++ [(name, .tables (earlier ++ [contentNodes contents]))]) =
              some (entries ++ [(name, .tables ((earlier ++ [contentNodes contents]) ++ [[]]))]) := by
          rw [openElement, find?_last absent]
          simp only [put_last absent]
        obtain ⟨opened', later⟩ := ih last (fun one member => each one (List.mem_cons_of_mem _ member))
          (place _) next middle
        refine ⟨opened', ?_⟩
        rw [written, List.foldlM_append, first, elementNodes]
        simpa [contentNodes] using later

theorem Value.Fits.builds {room : Nat} {value : Value} (fits : value.Fits room) :
    Builds value ∧ ∀ entries, value = .table entries → Toml.Fills entries := by
  induction fits with
  | plain plain =>
      refine ⟨?_, ?_⟩
      · intro path document entries plug name opened _ _ _ headed
        exact absurd (plain.alone.1.symm.trans headed) (by decide)
      · rintro entries rfl
        cases plain
  | @table room entries distinct inner ih =>
      have plain : ∀ entry ∈ entries, entry.2.hasHeaders = false → entry.2.Plain :=
        fun entry member => (inner entry member).plain_of
      have builds : ∀ entry ∈ entries, Builds entry.2 := fun entry member => (ih entry member).1
      refine ⟨Builds.of_table distinct plain builds, ?_⟩
      rintro others same
      cases same
      exact Toml.fills distinct plain builds
  | @tables room items nonempty all inner ih =>
      refine ⟨?_, fun _ same => nomatch same⟩
      intro path document entries plug name opened place acts absent headed
      have each : ∀ item ∈ items, ∃ contents, item = .table contents ∧ Toml.Fills contents := by
        intro item member
        have table := all item member
        cases item with
        | table contents => exact ⟨contents, rfl, (ih _ member).2 contents rfl⟩
        | text | integer | boolean | other | array => simp [Value.isTable] at table
      have opens : openElement name entries = some (entries ++ [(name, .tables ([] ++ [[]]))]) := by
        rw [openElement, absent]
        rfl
      obtain ⟨opened', built⟩ := build_elementStatements place absent nonempty each acts opens opened
      refine ⟨opened', ?_⟩
      rw [Value.statements, Value.node, if_pos headed]
      exact built

end

end GatewayControl.Toml
