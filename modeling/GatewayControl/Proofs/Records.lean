import GatewayControl.Proofs.Toml.Document
import GatewayControl.Store.Call

/-!
Stored records read back from their documents as they were written, whatever texts they hold. A
record whose version is too large for a document is not written at all.
-/

namespace GatewayControl

open Toml (Value Table arrangedTable)

/-! Maps of names. -/

theorem NameMap.insertEntry_last {α : Type} {name : String} (value : α) {entries : List (String × α)}
    (above : ∀ entry ∈ entries, entry.1 < name) :
    insertEntry name value entries = entries ++ [(name, value)] := by
  induction entries with
  | nil => rfl
  | cons entry entries ih =>
      obtain ⟨other, previous⟩ := entry
      have less : other < name := above _ List.mem_cons_self
      have different : name ≠ other := fun same => String.lt_irrefl _ (same ▸ less)
      have notLess : ¬name < other := fun greater => String.lt_irrefl _ (String.lt_trans less greater)
      have rest := ih fun next member => above next (List.mem_cons_of_mem _ member)
      rw [insertEntry, if_neg different, if_neg notLess, rest, List.cons_append]

theorem NameMap.foldl_insert {α : Type} (entries : List (String × α)) (map : NameMap α)
    (ascending : (map.entries ++ entries).Pairwise fun left right => left.1 < right.1) :
    (entries.foldl (fun map entry => map.insert entry.1 entry.2) map).entries =
      map.entries ++ entries := by
  induction entries generalizing map with
  | nil => simp
  | cons entry entries ih =>
      have above : ∀ other ∈ map.entries, other.1 < entry.1 := fun other member =>
        (List.pairwise_append.1 ascending).2.2 other member entry List.mem_cons_self
      have inserted : (map.insert entry.1 entry.2).entries = map.entries ++ [entry] :=
        insertEntry_last entry.2 above
      have later := ih (map.insert entry.1 entry.2) (by rw [inserted]; simpa using ascending)
      rw [List.foldl_cons, later, inserted]
      simp

theorem NameMap.ofList_toList {α : Type} (map : NameMap α) : NameMap.ofList map.toList = map := by
  have entries := NameMap.foldl_insert map.entries (∅ : NameMap α) map.ascending
  obtain ⟨own, ascending⟩ := map
  have same : (NameMap.ofList own).entries = own := entries
  cases made : NameMap.ofList own with
  | mk others _ =>
      rw [made] at same
      cases same
      exact made

/-! Fields of records. -/

section

variable {α : Type} {table : Table} (read : Value → Option α) (position : Nat) (name : String)

theorem required_arranged (distinct : (table.map Prod.fst).Nodup) :
    (Value.table (arrangedTable table)).required position name read =
      (Table.find? name table).bind fun value => read value.arranged := by
  simp only [Value.required, Value.field?, Toml.find?_arrangedTable distinct]
  cases Table.find? name table <;> rfl

theorem member?_arranged (distinct : (table.map Prod.fst).Nodup) :
    (Value.table (arrangedTable table)).member? position name read =
      match Table.find? name table with
      | none => some none
      | some value => (read value.arranged).map some := by
  simp only [Value.member?, Value.field?, Toml.find?_arrangedTable distinct]
  cases Table.find? name table with
  | none => rfl
  | some value =>
      change ((read value.arranged).bind fun one => some (some one)) = (read value.arranged).map some
      cases read value.arranged <;> rfl

theorem memberOr_arranged (default : α) (distinct : (table.map Prod.fst).Nodup) :
    (Value.table (arrangedTable table)).memberOr default position name read =
      match Table.find? name table with
      | none => some default
      | some value => read value.arranged := by
  rw [Value.memberOr, member?_arranged read position name distinct]
  cases Table.find? name table with
  | none => rfl
  | some value =>
      change (((read value.arranged).map some).bind fun found => some (found.getD default)) =
        read value.arranged
      cases read value.arranged <;> rfl

end

theorem State.ofWord?_word (state : State) : State.ofWord? state.word = some state := by
  cases state <;> decide

theorem Status.ofToml?_arranged (status : Status) :
    Status.ofToml? (.table (arrangedTable status.toToml)) = some status := by
  obtain ⟨state, reason⟩ := status
  cases reason with
  | none =>
      simp [Status.ofToml?, memberOr_arranged, member?_arranged, Status.toToml, Table.find?,
        Status.stateOfToml?, Value.case?, State.ofWord?_word]
  | some reason =>
      simp [Status.ofToml?, memberOr_arranged, member?_arranged, Status.toToml, Table.find?,
        Status.stateOfToml?, Value.case?, State.ofWord?_word, Value.text?]

theorem UpstreamBinding.ofToml?_arranged (binding : UpstreamBinding) :
    UpstreamBinding.ofToml? (.table (arrangedTable binding.toToml)) = some binding := by
  obtain ⟨upstream, function, request, response⟩ := binding
  cases request <;> cases response <;>
    simp [UpstreamBinding.ofToml?, required_arranged, member?_arranged, UpstreamBinding.toToml,
      optionalText, Table.find?, Value.text?]

theorem arrangedTable_single (name : String) (value : Value) :
    arrangedTable [(name, value)] = [(name, value.arranged)] := by
  by_cases headed : value.hasHeaders = true
  · exact Toml.arrangedTable_of_headed (by simpa using headed)
  · simp [arrangedTable, Toml.contentNodes, Toml.nodesOf, headed, Toml.tableOf, Value.arranged]

theorem Binding.ofToml?_arranged (binding : Binding) :
    Binding.ofToml? (.table (arrangedTable binding.toToml)) = some binding := by
  cases binding with
  | upstream binding =>
      simp [Binding.ofToml?, Binding.toToml, arrangedTable_single, Value.caseWith?,
        UpstreamBinding.ofToml?_arranged]
  | template source =>
      simp only [Binding.toToml, arrangedTable_single, Value.arranged_table, Value.arranged_text]
      rfl

theorem FieldEntry.ofToml?_arranged (entry : FieldEntry) :
    FieldEntry.ofToml? (.table (arrangedTable entry.toToml)) = some entry := by
  obtain ⟨binding⟩ := entry
  cases binding with
  | none => simp [FieldEntry.ofToml?, member?_arranged, FieldEntry.toToml, Table.find?]
  | some binding =>
      simp [FieldEntry.ofToml?, member?_arranged, FieldEntry.toToml, Table.find?,
        Binding.ofToml?_arranged]

theorem mapM_some {α : Type} {f : α → Option α} {values : List α}
    (each : ∀ item ∈ values, f item = some item) : values.mapM f = some values := by
  induction values with
  | nil => rfl
  | cons item values ih =>
      have rest := ih fun other later => each other (List.mem_cons_of_mem _ later)
      rw [List.mapM_cons, each item List.mem_cons_self, rest]
      rfl

theorem mapOfTable?_arranged {α : Type} {write : α → Table} {read : Value → Option α}
    (each : ∀ value, read (.table (arrangedTable (write value))) = some value) (map : NameMap α) :
    mapOfTable? read (.table (arrangedTable (tableOfMap write map))) = some map := by
  have headed : ∀ entry ∈ tableOfMap write map, entry.2.hasHeaders = true := by
    intro entry member
    obtain ⟨own, -, rfl⟩ := List.mem_map.1 member
    rfl
  have entries : (arrangedTable (tableOfMap write map)).mapM
      (fun entry => do return (entry.1, ← read entry.2)) = some map.toList := by
    rw [Toml.arrangedTable_of_headed headed, tableOfMap, List.map_map, List.mapM_map]
    refine mapM_some fun entry _ => ?_
    simp [each]
  change ((arrangedTable (tableOfMap write map)).mapM
    (fun entry => do return (entry.1, ← read entry.2)) >>= fun entries =>
      some (NameMap.ofList entries)) = some map
  rw [entries]
  exact congrArg some map.ofList_toList

theorem TypeEntry.ofToml?_arranged (entry : TypeEntry) :
    TypeEntry.ofToml? (.table (arrangedTable entry.toToml)) = some entry := by
  have fields := mapOfTable?_arranged FieldEntry.ofToml?_arranged entry.fields
  simp [TypeEntry.ofToml?, memberOr_arranged, TypeEntry.toToml, Table.find?, fields]

theorem ofNat_ok {version : Nat} {value : Value} (written : Value.ofNat version = .ok value) :
    version ≤ Toml.maxInteger ∧ value = .integer version := by
  rw [Value.ofNat] at written
  split at written
  · rename_i small
    cases written
    exact ⟨small, rfl⟩
  · cases written

theorem Schema.toToml_ok {schema : Schema} {table : Table} (written : schema.toToml = .ok table) :
    schema.version ≤ Toml.maxInteger ∧ table = [
      ("name", .text schema.name),
      ("resolver_map", .text schema.resolverMap),
      ("inline_schema", .text schema.source),
      ("resource_version", .integer schema.version),
      ("status", .table schema.status.toToml)] := by
  rw [Schema.toToml] at written
  cases version : Value.ofNat schema.version with
  | error fault =>
      rw [version] at written
      cases written
  | ok value =>
      obtain ⟨small, rfl⟩ := ofNat_ok version
      rw [version] at written
      cases written
      exact ⟨small, rfl⟩

theorem Schema.ofToml?_arranged {schema : Schema} {table : Table}
    (written : schema.toToml = .ok table) :
    Schema.ofToml? (.table (arrangedTable table)) = some schema := by
  obtain ⟨small, rfl⟩ := Schema.toToml_ok written
  have version : (Value.integer schema.version).arranged = .integer schema.version :=
    (Value.Plain.number small).arranged_eq
  simp [Schema.ofToml?, required_arranged, memberOr_arranged, Table.find?, Value.text?,
    version, Value.natural?, Status.ofToml?_arranged]

theorem ResolverMap.toToml_ok {map : ResolverMap} {table : Table} (written : map.toToml = .ok table) :
    map.version ≤ Toml.maxInteger ∧ table = [
      ("name", .text map.name),
      ("types", .table (tableOfMap TypeEntry.toToml map.types)),
      ("resource_version", .integer map.version),
      ("status", .table map.status.toToml)] := by
  rw [ResolverMap.toToml] at written
  cases version : Value.ofNat map.version with
  | error fault =>
      rw [version] at written
      cases written
  | ok value =>
      obtain ⟨small, rfl⟩ := ofNat_ok version
      rw [version] at written
      cases written
      exact ⟨small, rfl⟩

theorem ResolverMap.ofToml?_arranged {map : ResolverMap} {table : Table}
    (written : map.toToml = .ok table) :
    ResolverMap.ofToml? (.table (arrangedTable table)) = some map := by
  obtain ⟨small, rfl⟩ := ResolverMap.toToml_ok written
  have types := mapOfTable?_arranged TypeEntry.ofToml?_arranged map.types
  have version : (Value.integer map.version).arranged = .integer map.version :=
    (Value.Plain.number small).arranged_eq
  simp [ResolverMap.ofToml?, required_arranged, memberOr_arranged, Table.find?, Value.text?,
    version, Value.natural?, Status.ofToml?_arranged, types]

/-! Records fit into documents. -/

theorem text_fits (room : Nat) (value : String) : Value.Fits room (.text value) :=
  .plain (.text value)

theorem Status.fits (room : Nat) (status : Status) :
    Value.Fits (room + 1) (.table status.toToml) := by
  obtain ⟨state, reason⟩ := status
  refine .table ?_ ?_
  · cases reason <;> simp [Status.toToml]
  · cases reason <;> simp [Status.toToml, text_fits]

theorem UpstreamBinding.fits (room : Nat) (binding : UpstreamBinding) :
    Value.Fits (room + 1) (.table binding.toToml) := by
  obtain ⟨upstream, function, request, response⟩ := binding
  refine .table ?_ ?_
  · cases request <;> cases response <;> simp [UpstreamBinding.toToml, optionalText]
  · cases request <;> cases response <;> simp [UpstreamBinding.toToml, optionalText, text_fits]

theorem Binding.fits (room : Nat) (binding : Binding) :
    Value.Fits (room + 2) (.table binding.toToml) := by
  cases binding with
  | upstream binding =>
      refine .table (by simp [Binding.toToml]) ?_
      simpa [Binding.toToml] using binding.fits room
  | template source =>
      have inline : Value.Fits (room + 1) (.table [("inline", .text source)]) :=
        .table (by simp) (by simp [text_fits])
      refine .table (by simp [Binding.toToml]) ?_
      simpa [Binding.toToml] using inline

theorem FieldEntry.fits (room : Nat) (entry : FieldEntry) :
    Value.Fits (room + 3) (.table entry.toToml) := by
  obtain ⟨binding⟩ := entry
  cases binding with
  | none => exact .table (by simp [FieldEntry.toToml]) (by simp [FieldEntry.toToml])
  | some binding =>
      refine .table (by simp [FieldEntry.toToml]) ?_
      simpa [FieldEntry.toToml] using binding.fits room

theorem tableOfMap_fits {α : Type} {write : α → Table} {room : Nat}
    (each : ∀ value, Value.Fits room (.table (write value))) (map : NameMap α) :
    Value.Fits (room + 1) (.table (tableOfMap write map)) := by
  refine .table ?_ ?_
  · have names : (tableOfMap write map).map Prod.fst = map.entries.map Prod.fst := by
      simp [tableOfMap, NameMap.toList, Function.comp_def]
    rw [names, List.Nodup, List.pairwise_map]
    refine map.ascending.imp ?_
    intro left right less same
    exact String.lt_irrefl _ (same ▸ less)
  · intro entry member
    obtain ⟨own, -, rfl⟩ := List.mem_map.1 member
    exact each own.2

theorem TypeEntry.fits (room : Nat) (entry : TypeEntry) :
    Value.Fits (room + 5) (.table entry.toToml) := by
  refine .table (by simp [TypeEntry.toToml]) ?_
  simpa [TypeEntry.toToml] using tableOfMap_fits (FieldEntry.fits room) entry.fields

def Writes (table : Table) : Prop :=
  (table.map Prod.fst).Nodup ∧ ∀ entry ∈ table, entry.2.Fits Toml.nestingLimit

theorem Schema.writes {schema : Schema} {table : Table} (written : schema.toToml = .ok table) :
    Writes table := by
  obtain ⟨small, rfl⟩ := Schema.toToml_ok written
  have version : Value.Fits Toml.nestingLimit (.integer schema.version) := .plain (.number small)
  have status : Value.Fits Toml.nestingLimit (.table schema.status.toToml) := schema.status.fits 78
  constructor
  · simp
  · simp [text_fits, version, status]

theorem ResolverMap.writes {map : ResolverMap} {table : Table} (written : map.toToml = .ok table) :
    Writes table := by
  obtain ⟨small, rfl⟩ := ResolverMap.toToml_ok written
  have types : Value.Fits Toml.nestingLimit (.table (tableOfMap TypeEntry.toToml map.types)) :=
    tableOfMap_fits (TypeEntry.fits 73) map.types
  have version : Value.Fits Toml.nestingLimit (.integer map.version) := .plain (.number small)
  have status : Value.Fits Toml.nestingLimit (.table map.status.toToml) := map.status.fits 78
  constructor
  · simp
  · simp [text_fits, types, version, status]

theorem ofNat_of_large {number : Nat} (large : Toml.maxInteger < number) :
    Value.ofNat number = .error .integerOutOfRange :=
  if_neg (by omega)

/-- Objects of a kind that have documents up to the largest version, and whose documents are read as
they were written. -/
class Documented (α : Type) [StoredObject α] : Prop where
  writes : ∀ {object : α}, StoredObject.version object ≤ Toml.maxInteger →
    ∃ table, StoredObject.toToml object = .ok table
  refuses : ∀ {object : α}, Toml.maxInteger < StoredObject.version object →
    StoredObject.toToml object = .error .integerOutOfRange
  reads_back : ∀ {object : α} {table : Table}, StoredObject.toToml object = .ok table →
    (Toml.read (Toml.write table) >>= fun record => StoredObject.ofToml? (.table record)) = some object

instance : Documented Schema where
  writes := by
    intro schema small
    have version : Value.ofNat schema.version = .ok (.integer schema.version) := if_pos small
    change ∃ table, schema.toToml = .ok table
    rw [Schema.toToml, version]
    exact ⟨_, rfl⟩
  refuses := by
    intro schema large
    have version : Value.ofNat schema.version = .error .integerOutOfRange := ofNat_of_large large
    change schema.toToml = _
    rw [Schema.toToml, version]
    rfl
  reads_back := by
    intro schema table written
    obtain ⟨distinct, fits⟩ := Schema.writes written
    rw [Toml.read_write distinct fits]
    exact Schema.ofToml?_arranged written

instance : Documented ResolverMap where
  writes := by
    intro map small
    have version : Value.ofNat map.version = .ok (.integer map.version) := if_pos small
    change ∃ table, map.toToml = .ok table
    rw [ResolverMap.toToml, version]
    exact ⟨_, rfl⟩
  refuses := by
    intro map large
    have version : Value.ofNat map.version = .error .integerOutOfRange := ofNat_of_large large
    change map.toToml = _
    rw [ResolverMap.toToml, version]
    rfl
  reads_back := by
    intro map table written
    obtain ⟨distinct, fits⟩ := ResolverMap.writes written
    rw [Toml.read_write distinct fits]
    exact ResolverMap.ofToml?_arranged written

end GatewayControl
