import GatewayControl.Proofs.Interleaving
import GatewayControl.Proofs.Listings

/-!
Two backends with one behaviour. A store in a directory that has documents only and a store in memory
with the same objects give the same answers to gets, creations and updates, and hold the same objects
afterwards, as long as no operation on files fails.
-/

namespace GatewayControl

/-- Whether an operation does what it is asked to. That a file is missing is an answer to its reader. -/
def DiskCall.Works : (call : DiskCall) → call.Reply → Prop
  | .readText _, .error .notFound => True
  | _, .error _ => False
  | _, .ok _ => True

def Disk.Runs {α : Type} (disk : Disk) (program : DiskProgram α) : Prop :=
  ∀ operation ∈ program.steps handle disk, operation.call.Works operation.reply

theorem Disk.runs_done {α : Type} (disk : Disk) (value : α) : disk.Runs (.done value) :=
  fun _ member => (List.not_mem_nil member).elim

theorem Disk.runs_call {α : Type} {disk : Disk} {request : DiskCall}
    {next : request.Reply → DiskProgram α} :
    disk.Runs (.call request next) ↔ request.Works (handle request disk).1 ∧
      Disk.Runs (handle request disk).2 (next (handle request disk).1) := by
  rw [Runs, Program.steps_call, List.forall_mem_cons]
  rfl

theorem Disk.runs_bind {α β : Type} {disk : Disk} {program : DiskProgram α}
    {next : α → DiskProgram β} :
    disk.Runs (program.bind next) ↔ disk.Runs program ∧
      Disk.Runs (program.run handle disk).2 (next (program.run handle disk).1) := by
  rw [Runs, Program.steps_bind, List.forall_mem_append]
  rfl

/-- Gets, creations and updates under valid names, of versions below the largest. -/
def StoreCall.Plain : StoreCall → Prop
  | .getSchema name | .getMap name => ValidName name
  | .updateSchema schema => ValidName schema.name ∧ schema.version < Toml.maxInteger
  | .createMap map => ValidName map.name
  | .updateMap map => ValidName map.name ∧ map.version < Toml.maxInteger
  | .listSchemas | .listMaps => False

instance : (call : StoreCall) → Decidable call.Plain
  | .getSchema name | .getMap name => inferInstanceAs (Decidable (ValidName name))
  | .updateSchema schema =>
    inferInstanceAs (Decidable (ValidName schema.name ∧ schema.version < Toml.maxInteger))
  | .createMap map => inferInstanceAs (Decidable (ValidName map.name))
  | .updateMap map => inferInstanceAs (Decidable (ValidName map.name ∧ map.version < Toml.maxInteger))
  | .listSchemas | .listMaps => inferInstanceAs (Decidable False)

namespace FileStore

open StoredObject

/-- Whether a directory has documents only, each read under its own name, and their objects are
those of a catalog. -/
structure Holds {α : Type} [StoredObject α] (store : FileStore) (disk : Disk) (catalog : Catalog α) :
    Prop where
  reached : disk.look (store.way (kind α)) = .ok .directory
  loads : ∀ file ∈ disk.namesIn (store.way (kind α)),
    Path.nameExtension file = some documentExtension ∧
      ∃ object : α, load disk (store.directory (kind α) ++ [file]) = .ok object
  same : ∀ objectName, store.stored? disk objectName = catalog.get? objectName

structure Mirrors (store : FileStore) (disk : Disk) (memory : MemoryStore) : Prop where
  distinct : disk.Distinct
  schemas : store.Holds disk memory.schemas
  maps : store.Holds disk memory.maps

section

variable {α : Type} [StoredObject α] {store : FileStore} {disk after : Disk} {catalog : Catalog α}
  {objectName : String}

theorem Holds.empty (reached : disk.look (store.way (kind α)) = .ok .directory)
    (empty : disk.namesIn (store.way (kind α)) = []) : store.Holds disk (∅ : Catalog α) := by
  constructor
  · exact reached
  · intro file member
    rw [empty] at member
    exact (List.not_mem_nil member).elim
  · intro objectName
    cases stored : store.stored? (α := α) disk objectName with
    | none => rfl
    | some object =>
        obtain ⟨-, content, read, -⟩ := of_stored? stored
        rw [resolve_path] at read
        have there := (Disk.readText_eq_ok_iff.1 read).2.2
        have member := Disk.mem_namesIn.2 (by rw [there]; exact nofun)
        rw [empty] at member
        exact (List.not_mem_nil member).elim

theorem Holds.found (holds : store.Holds disk catalog) (nonempty : objectName ≠ "")
    (there : disk.entry? (store.way (kind α) ++ [objectName ++ "." ++ documentExtension]) ≠ none) :
    ∃ content object, disk.readText (Disk.resolve (store.path (kind α) objectName)) = .ok content ∧
      parseDocument (store.path (kind α) objectName) content = .ok object ∧
      catalog.get? objectName = some object := by
  obtain ⟨-, object, loaded⟩ := holds.loads _ (Disk.mem_namesIn.2 there)
  change load disk (store.path (kind α) objectName) = .ok object at loaded
  have stored := (stored?_of_load nonempty loaded).1
  rw [holds.same] at stored
  rw [load] at loaded
  cases content : disk.readText (Disk.resolve (store.path (kind α) objectName)) with
  | error fault =>
      rw [content] at loaded
      cases loaded
  | ok text =>
      rw [content] at loaded
      exact ⟨text, object, rfl, loaded, stored⟩

theorem Holds.missing {fault : DiskFault} (holds : store.Holds disk catalog)
    (unread : disk.readText (Disk.resolve (store.path (kind α) objectName)) = .error fault) :
    catalog.get? objectName = none := by
  rw [← holds.same, stored?, unread]

theorem Holds.got_eq (holds : store.Holds disk catalog) (valid : ValidName objectName)
    (runs : disk.Runs (store.read (α := α) objectName)) :
    store.got disk objectName = MemoryStore.getIn catalog objectName := by
  have nonempty := name_ne_empty valid
  rw [read, path?] at runs
  simp only [show nameFault objectName = none from valid, Disk.runs_call] at runs
  have works := runs.1
  rw [FileStore.got_eq, path?, MemoryStore.getIn]
  simp only [show nameFault objectName = none from valid]
  cases read : disk.readText (Disk.resolve (store.path (kind α) objectName)) with
  | error fault =>
      simp only [Disk.handle, read] at works
      rw [holds.missing read]
      cases fault with
      | notFound => rfl
      | alreadyExists | notDirectory | isDirectory | nameTooLong | invalidText | other => exact works.elim
  | ok content =>
      have there : disk.entry? (store.way (kind α) ++ [objectName ++ "." ++ documentExtension]) ≠
          none := by
        have text := read
        rw [resolve_path] at text
        rw [(Disk.readText_eq_ok_iff.1 text).2.2]
        exact Option.some_ne_none _
      obtain ⟨text, object, own, parsed, stored⟩ := holds.found nonempty there
      cases read.symm.trans own
      rw [stored]
      exact parsed

/-- Whether the objects of a kind become those of a catalog, and all other directories hold what they
held. -/
structure Follows (store : FileStore) (disk after : Disk) (catalog : Catalog α) : Prop where
  distinct : disk.Distinct → after.Distinct
  own : store.Holds after catalog
  others : ∀ (β : Type) [StoredObject β] (other : Catalog β), kind β ≠ kind α →
    store.Holds disk other → store.Holds after other

theorem Holds.follows (holds : store.Holds disk catalog) : store.Follows disk disk catalog :=
  ⟨id, holds, fun _ _ _ _ held => held⟩

theorem Holds.of_sameBut {changed : ObjectKind → String → Prop} (holds : store.Holds disk catalog)
    (same : store.SameBut changed disk after) (other : ∀ file, ¬changed (kind α) file) :
    store.Holds after catalog := by
  constructor
  · rw [same.look, holds.reached]
  · intro file member
    rw [Disk.mem_namesIn, same.files _ _ (other file), ← Disk.mem_namesIn] at member
    obtain ⟨document, object, loaded⟩ := holds.loads file member
    obtain ⟨objectName, -, rfl⟩ := file_of_extension document
    exact ⟨document, object, (same.load (other _)).trans loaded⟩
  · intro objectName
    rw [stored?_congr (same.readText (other _)), holds.same]

theorem Holds.withDocument [Documented α] {object : α} {content : String}
    (holds : store.Holds disk catalog) (nonempty : name object ≠ "")
    (rendered : renderDocument object = .ok content)
    (short : (name object ++ ".toml.tmp").utf8ByteSize ≤ Disk.maxNameLength) :
    store.Follows disk (store.withDocument disk (kind α) (name object) content)
      (catalog.put object) := by
  have reached := Disk.look_eq_directory_iff.1 holds.reached
  have same := sameBut_withDocument store disk (kind α) (name object) content
  have read : (store.withDocument disk (kind α) (name object) content).readText
      (Disk.resolve (store.path (kind α) (name object))) = .ok content :=
    readText_withDocument reached short
  have parsed : parseDocument (store.path (kind α) (name object)) content = .ok object :=
    parseDocument_renderDocument (stem_path store _ nonempty) rendered
  constructor
  · intro distinct
    exact distinct.replaced _ _ _
  · constructor
    · rw [same.look, holds.reached]
    · intro file member
      rcases mem_namesIn_withDocument member with rfl | ⟨foreign, listed⟩
      · refine ⟨nameExtension_document nonempty, object, ?_⟩
        change load _ (store.path (kind α) (name object)) = .ok object
        rw [load, read]
        exact parsed
      · obtain ⟨document, other, loaded⟩ := holds.loads file listed
        obtain ⟨objectName, -, rfl⟩ := file_of_extension document
        exact ⟨document, other, (same.load foreign).trans loaded⟩
    · intro objectName
      by_cases here : objectName = name object
      · subst here
        rw [(stored?_of_parse nonempty read parsed).1, Catalog.get?_put_self]
      · have kept : ¬OwnFile (kind α) (name object) (kind α)
            (objectName ++ "." ++ documentExtension) := not_ownFile_of_ne fun own => here own.2
        rw [stored?_congr (same.readText kept), holds.same, Catalog.get?_put_of_ne here]
  · intro β _ other different held
    exact held.of_sameBut same fun file own => different own.1

theorem run_write_of_runs [Documented α] {object : α} (nonempty : name object ≠ "")
    (small : version object ≤ Toml.maxInteger)
    (runs : disk.Runs (write (store.path (kind α) (name object)) object)) :
    ∃ content, renderDocument object = .ok content ∧
      (name object ++ ".toml.tmp").utf8ByteSize ≤ Disk.maxNameLength ∧
      (write (store.path (kind α) (name object)) object).run Disk.handle disk =
        (.ok object, store.withDocument disk (kind α) (name object) content) := by
  obtain ⟨content, rendered⟩ := renderDocument_of_small small
  rw [write, rendered] at runs ⊢
  obtain ⟨works, rest⟩ := Disk.runs_call.1 runs
  simp only [Program.run_call, Disk.handle] at works rest ⊢
  cases wrote : disk.writeFile (Disk.resolve (temporaryPath (store.path (kind α) (name object))))
      (.text content) with
  | error fault =>
      rw [wrote] at works
      exact works.elim
  | ok written =>
      simp only [wrote, Disk.changed] at rest ⊢
      obtain ⟨works, -⟩ := Disk.runs_call.1 rest
      simp only [Program.run_call, Disk.handle] at works ⊢
      cases moved : written.rename (Disk.resolve (temporaryPath (store.path (kind α) (name object))))
          (Disk.resolve (store.path (kind α) (name object))) with
      | error fault =>
          rw [moved] at works
          exact works.elim
      | ok renamed =>
          have same := Disk.eq_replaced_of_rename wrote moved
          rw [resolve_temporaryPath store _ nonempty] at wrote same
          rw [resolve_path] at same
          obtain ⟨-, short, -⟩ := Disk.writeFile_eq_ok_iff.1 wrote
          refine ⟨content, rfl, short, ?_⟩
          simp only [Disk.changed, Program.run_done, same]
          rfl

theorem Holds.write [Documented α] {object : α} (holds : store.Holds disk catalog)
    (named : name object = objectName) (nonempty : objectName ≠ "")
    (small : version object ≤ Toml.maxInteger)
    (runs : disk.Runs (write (store.path (kind α) objectName) object)) :
    ((FileStore.write (store.path (kind α) objectName) object).run Disk.handle disk).1 = .ok object ∧
      store.Follows disk ((FileStore.write (store.path (kind α) objectName) object).run
        Disk.handle disk).2 (catalog.put object) := by
  subst named
  obtain ⟨content, rendered, short, ran⟩ := run_write_of_runs nonempty small runs
  rw [ran]
  exact ⟨rfl, holds.withDocument nonempty rendered short⟩

theorem Holds.update [Documented α] {object : α} (holds : store.Holds disk catalog)
    (valid : ValidName (name object)) (small : version object < Toml.maxInteger)
    (runs : disk.Runs (store.update object)) :
    ((store.update object).run Disk.handle disk).1 = (MemoryStore.updateIn catalog object).1 ∧
      store.Follows disk ((store.update object).run Disk.handle disk).2
        (MemoryStore.updateIn catalog object).2 := by
  rw [FileStore.update] at runs ⊢
  obtain ⟨reads, rest⟩ := Disk.runs_bind.1 runs
  have given := holds.got_eq valid reads
  rw [Program.run_bind, run_read, given, MemoryStore.updateIn]
  rw [run_read, given] at rest
  rw [MemoryStore.getIn] at rest ⊢
  cases stored : catalog.get? (name object) with
  | none => exact ⟨rfl, holds.follows⟩
  | some current =>
      simp only [stored] at rest ⊢
      by_cases versions : version object = version current
      · simp only [versions, if_true] at rest ⊢
        refine holds.write (name_withVersion _ _) (name_ne_empty valid) ?_ rest
        rw [version_withVersion]
        exact (nextVersion_le _).trans (versions ▸ small)
      · simp only [versions, if_false]
        exact ⟨rfl, holds.follows⟩

theorem Holds.create [Documented α] {object : α} (holds : store.Holds disk catalog)
    (valid : ValidName (name object)) (runs : disk.Runs (store.create object)) :
    ((store.create object).run Disk.handle disk).1 = (MemoryStore.createIn catalog object).1 ∧
      store.Follows disk ((store.create object).run Disk.handle disk).2
        (MemoryStore.createIn catalog object).2 := by
  have fine : nameFault (name object) = none := valid
  have nonempty := name_ne_empty valid
  rw [FileStore.create, path?] at runs ⊢
  rw [MemoryStore.createIn]
  simp only [fine] at runs ⊢
  obtain ⟨works, rest⟩ := Disk.runs_call.1 runs
  simp only [Program.run_call, Disk.handle] at works rest ⊢
  cases there : disk.isThere (Disk.resolve (store.path (kind α) (name object))) with
  | error fault =>
      rw [there] at works
      exact works.elim
  | ok present =>
      cases present with
      | true =>
          have taken := Disk.entry?_of_isThere there
          rw [resolve_path] at taken
          obtain ⟨content, current, -, -, stored⟩ := holds.found nonempty taken
          rw [stored]
          exact ⟨rfl, holds.follows⟩
      | false =>
          have missing := Disk.isThere_eq_false_iff.1 there
          have unread : disk.readText (Disk.resolve (store.path (kind α) (name object))) =
              .error .notFound := by rw [Disk.readText, missing]
          rw [holds.missing unread]
          rw [there] at rest
          refine holds.write (name_withVersion _ _) nonempty ?_ rest
          rw [version_withVersion]
          decide

/-! Operations on files of short names do not fail. -/

theorem Holds.look (holds : store.Holds disk catalog) (nonempty : objectName ≠ "")
    (short : (objectName ++ ".toml.tmp").utf8ByteSize ≤ Disk.maxNameLength) :
    disk.look (Disk.resolve (store.path (kind α) objectName)) = .error .notFound ∨
      ∃ content, disk.look (Disk.resolve (store.path (kind α) objectName)) = .ok (.text content) := by
  have smaller := documentFile_lt objectName
  have looked := Disk.look_concat (Disk.look_eq_directory_iff.1 holds.reached)
    (Nat.le_of_lt (Nat.lt_of_lt_of_le smaller short))
  rw [resolve_path, looked]
  cases there : disk.entry? (store.way (kind α) ++ [objectName ++ "." ++ documentExtension]) with
  | none => exact .inl rfl
  | some entry =>
      obtain ⟨content, -, read, -⟩ := holds.found nonempty (by rw [there]; exact nofun)
      rw [resolve_path] at read
      cases there.symm.trans (Disk.readText_eq_ok_iff.1 read).2.2
      exact .inr ⟨content, rfl⟩

theorem Holds.runs_read (holds : store.Holds disk catalog)
    (short : (objectName ++ ".toml.tmp").utf8ByteSize ≤ Disk.maxNameLength) :
    disk.Runs (store.read (α := α) objectName) := by
  rw [read, path?]
  cases valid : nameFault objectName with
  | some fault => exact Disk.runs_done _ _
  | none =>
      rw [Disk.runs_call]
      simp only [Disk.handle, Disk.readText]
      rcases holds.look (name_ne_empty valid) short with missing | ⟨content, there⟩
      · rw [missing]
        exact ⟨trivial, Disk.runs_done _ _⟩
      · rw [there]
        exact ⟨trivial, Disk.runs_done _ _⟩

theorem Holds.runs_write (holds : store.Holds disk catalog) (nonempty : objectName ≠ "")
    (short : (objectName ++ ".toml.tmp").utf8ByteSize ≤ Disk.maxNameLength) (object : α) :
    disk.Runs (FileStore.write (store.path (kind α) objectName) object) := by
  rw [FileStore.write]
  cases renderDocument object with
  | error fault => exact Disk.runs_done _ _
  | ok content =>
      have reached := Disk.look_eq_directory_iff.1 holds.reached
      have smaller := documentFile_lt objectName
      have free : disk.entry? (store.way (kind α) ++ [objectName ++ ".toml.tmp"]) = none := by
        refine Classical.not_not.1 fun there => ?_
        exact nameExtension_temporary objectName (holds.loads _ (Disk.mem_namesIn.2 there)).1
      have target : disk.entry? (store.way (kind α) ++ [objectName ++ "." ++ documentExtension]) ≠
          some .directory := by
        intro directory
        obtain ⟨text, -, read, -⟩ := holds.found nonempty (by rw [directory]; exact Option.some_ne_none _)
        rw [resolve_path] at read
        cases directory.symm.trans (Disk.readText_eq_ok_iff.1 read).2.2
      have wrote : disk.writeFile (store.way (kind α) ++ [objectName ++ ".toml.tmp"]) (.text content) =
          .ok (disk.put (store.way (kind α) ++ [objectName ++ ".toml.tmp"]) (.text content)) :=
        Disk.writeFile_eq_ok_iff.2 ⟨reached, short, by rw [free]; exact (Option.some_ne_none _).symm, rfl⟩
      have moved := Disk.rename_of_writeFile wrote (documentFile_ne_temporary objectName objectName)
        (Nat.le_of_lt smaller) target
      rw [Disk.runs_call]
      simp only [Disk.handle, resolve_temporaryPath store _ nonempty, wrote, Disk.changed]
      refine ⟨trivial, ?_⟩
      rw [Disk.runs_call]
      simp only [Disk.handle, resolve_temporaryPath store _ nonempty, resolve_path, moved, Disk.changed]
      exact ⟨trivial, Disk.runs_done _ _⟩

theorem Holds.runs_update {object : α} (holds : store.Holds disk catalog)
    (short : (name object ++ ".toml.tmp").utf8ByteSize ≤ Disk.maxNameLength) :
    disk.Runs (store.update object) := by
  rw [FileStore.update, Disk.runs_bind, run_read]
  refine ⟨holds.runs_read short, ?_⟩
  cases given : store.got (α := α) disk (name object) with
  | error fault => exact Disk.runs_done _ _
  | ok current =>
      simp only
      split
      · exact holds.runs_write (stored?_of_got given).1 short _
      · exact Disk.runs_done _ _

theorem Holds.runs_create {object : α} (holds : store.Holds disk catalog)
    (short : (name object ++ ".toml.tmp").utf8ByteSize ≤ Disk.maxNameLength) :
    disk.Runs (store.create object) := by
  rw [FileStore.create, path?]
  cases valid : nameFault (name object) with
  | some fault => exact Disk.runs_done _ _
  | none =>
      have nonempty := name_ne_empty valid
      rw [Disk.runs_call]
      simp only [Disk.handle, Disk.isThere]
      rcases holds.look nonempty short with missing | ⟨content, there⟩
      · rw [missing]
        exact ⟨trivial, holds.runs_write nonempty short _⟩
      · rw [there]
        exact ⟨trivial, Disk.runs_done _ _⟩

/-! Listings. -/

/-- A listing goes through the documents in the order of their files. -/
theorem Holds.listed_files (holds : store.Holds disk catalog) :
    ∃ objects : List α, store.listed disk = .ok objects ∧
      objects.map (fun object => name object ++ "." ++ documentExtension) =
        documentNames (disk.namesIn (store.way (kind α))) := by
  have documents : ∀ file ∈ documentNames (disk.namesIn (store.way (kind α))),
      ∃ object : α, load disk (store.directory (kind α) ++ [file]) = .ok object := by
    intro file member
    exact (holds.loads file (mem_documentNames.1 member).1).2
  obtain ⟨objects, loaded⟩ := mapM_isOk documents
  have given : store.listed disk = .ok objects := by
    rw [listed_eq, holds.reached]
    exact loaded
  exact ⟨objects, given, files_of_listed given⟩

def ListsOnce (store : FileStore) (disk : Disk) (catalog : Catalog α) : Prop :=
  ∃ objects, store.listed disk = .ok objects ∧ objects.Perm catalog.values ∧ (objects.map name).Nodup

theorem Holds.listsOnce (holds : store.Holds disk catalog) (distinct : disk.Distinct) :
    store.ListsOnce disk catalog := by
  obtain ⟨objects, given, -⟩ := holds.listed_files
  have distinctNames := nodup_names_of_listed distinct given
  have members : ∀ object, object ∈ objects ↔ object ∈ catalog.values := by
    intro object
    rw [Catalog.mem_values, ← holds.same]
    constructor
    · exact stored?_of_listed given
    · intro stored
      obtain ⟨nonempty, content, read, parsed⟩ := of_stored? stored
      exact mem_listed nonempty given read parsed
  have distinctObjects : ∀ {values : List α}, (values.map name).Nodup → values.Nodup :=
    List.Pairwise.of_map name fun _ _ different same => different (congrArg name same)
  refine ⟨objects, given, ?_, distinctNames⟩
  exact (List.perm_ext_iff_of_nodup (distinctObjects distinctNames)
    (distinctObjects catalog.nodup_names_values)).2 members

end

/-! Runs. -/

section

variable {store : FileStore} {disk : Disk} {memory : MemoryStore} {call : StoreCall}

theorem Mirrors.step (mirrors : store.Mirrors disk memory) (plain : call.Plain)
    (runs : disk.Runs (store.answer call)) :
    (store.handle Disk.handle call disk).1 = (MemoryStore.handle call memory).1 ∧
      store.Mirrors (store.handle Disk.handle call disk).2 (MemoryStore.handle call memory).2 := by
  have kinds : kind ResolverMap ≠ kind Schema := by decide
  cases call with
  | getSchema objectName =>
      have ran := run_read (α := Schema) store objectName disk
      rw [mirrors.schemas.got_eq plain runs] at ran
      simp only [handle, answer, ran, MemoryStore.handle]
      exact ⟨trivial, mirrors⟩
  | getMap objectName =>
      have ran := run_read (α := ResolverMap) store objectName disk
      rw [mirrors.maps.got_eq plain runs] at ran
      simp only [handle, answer, ran, MemoryStore.handle]
      exact ⟨trivial, mirrors⟩
  | updateSchema schema =>
      obtain ⟨reply, follows⟩ := mirrors.schemas.update plain.1 plain.2 runs
      exact ⟨reply, follows.distinct mirrors.distinct, follows.own,
        follows.others ResolverMap _ kinds mirrors.maps⟩
  | createMap map =>
      obtain ⟨reply, follows⟩ := mirrors.maps.create plain runs
      exact ⟨reply, follows.distinct mirrors.distinct,
        follows.others Schema _ kinds.symm mirrors.schemas, follows.own⟩
  | updateMap map =>
      obtain ⟨reply, follows⟩ := mirrors.maps.update plain.1 plain.2 runs
      exact ⟨reply, follows.distinct mirrors.distinct,
        follows.others Schema _ kinds.symm mirrors.schemas, follows.own⟩
  | listSchemas | listMaps => exact plain.elim

end

end FileStore

def Step.answered {σ : Type} (step : Step StoreCall.Reply σ) : (call : StoreCall) × call.Reply :=
  ⟨step.call, step.reply⟩

namespace FileStore

section

variable {κ : Type} {store : FileStore} {disk : Disk} {memory : MemoryStore}

theorem Mirrors.run {calls : List (κ × StoreCall)} (mirrors : store.Mirrors disk memory)
    (plain : ∀ call ∈ calls, call.2.Plain)
    (runs : ∀ step ∈ history (store.handle Disk.handle) calls disk,
      step.2.before.Runs (store.answer step.2.call)) :
    (history (store.handle Disk.handle) calls disk).map (fun step => (step.1, step.2.answered)) =
        (history MemoryStore.handle calls memory).map (fun step => (step.1, step.2.answered)) ∧
      ∀ done, done <+: calls → store.Mirrors (stateAfter (store.handle Disk.handle) done disk)
        (stateAfter MemoryStore.handle done memory) := by
  induction calls generalizing disk memory with
  | nil =>
      refine ⟨rfl, fun done begins => ?_⟩
      rw [List.prefix_nil.1 begins]
      exact mirrors
  | cons call calls ih =>
      obtain ⟨client, call⟩ := call
      rw [history, List.forall_mem_cons] at runs
      obtain ⟨plainFirst, plainRest⟩ := List.forall_mem_cons.1 plain
      obtain ⟨reply, kept⟩ := mirrors.step plainFirst runs.1
      obtain ⟨replies, after⟩ := ih kept plainRest runs.2
      constructor
      · rw [history, history, List.map_cons, List.map_cons, replies]
        simp only [Step.answered, reply]
      · intro done begins
        rcases List.prefix_cons_iff.1 begins with rfl | ⟨rest, rfl, shorter⟩
        · exact mirrors
        · exact after rest shorter

theorem Mirrors.runs {call : StoreCall} (mirrors : store.Mirrors disk memory) (plain : call.Plain)
    (short : (call.object ++ ".toml.tmp").utf8ByteSize ≤ Disk.maxNameLength) :
    disk.Runs (store.answer call) := by
  cases call with
  | getSchema objectName => exact mirrors.schemas.runs_read short
  | getMap objectName => exact mirrors.maps.runs_read short
  | updateSchema schema => exact mirrors.schemas.runs_update short
  | createMap map => exact mirrors.maps.runs_create short
  | updateMap map => exact mirrors.maps.runs_update short
  | listSchemas | listMaps => exact plain.elim

/-- Only long names make operations on files fail. -/
theorem Mirrors.runs_history {calls : List (κ × StoreCall)} (mirrors : store.Mirrors disk memory)
    (plain : ∀ call ∈ calls, call.2.Plain)
    (short : ∀ call ∈ calls, (call.2.object ++ ".toml.tmp").utf8ByteSize ≤ Disk.maxNameLength) :
    ∀ step ∈ history (store.handle Disk.handle) calls disk,
      step.2.before.Runs (store.answer step.2.call) := by
  induction calls generalizing disk memory with
  | nil => exact fun _ member => (List.not_mem_nil member).elim
  | cons call calls ih =>
      obtain ⟨client, call⟩ := call
      obtain ⟨plainFirst, plainRest⟩ := List.forall_mem_cons.1 plain
      obtain ⟨shortFirst, shortRest⟩ := List.forall_mem_cons.1 short
      have first := mirrors.runs plainFirst shortFirst
      rw [history, List.forall_mem_cons]
      exact ⟨first, ih (mirrors.step plainFirst first).2 plainRest shortRest⟩

theorem Mirrors.contents_eq (mirrors : store.Mirrors disk memory) :
    store.contents disk = memory.contents := by
  funext ref
  obtain ⟨refKind, objectName⟩ := ref
  cases refKind with
  | schema => exact congrArg (Option.map StoredItem.schema) (mirrors.schemas.same objectName)
  | resolverMap => exact congrArg (Option.map StoredItem.resolverMap) (mirrors.maps.same objectName)

end

structure AnswersAlike {κ : Type} (store : FileStore) (disk : Disk) (memory : MemoryStore)
    (calls : List (κ × StoreCall)) : Prop where
  replies : (history (store.handle Disk.handle) calls disk).map (fun step => (step.1, step.2.answered)) =
    (history MemoryStore.handle calls memory).map fun step => (step.1, step.2.answered)
  contents : ∀ done, done <+: calls →
    store.contents (stateAfter (store.handle Disk.handle) done disk) =
      (stateAfter MemoryStore.handle done memory).contents
  schemas : ∀ done, done <+: calls →
    store.ListsOnce (stateAfter (store.handle Disk.handle) done disk)
      (stateAfter MemoryStore.handle done memory).schemas
  maps : ∀ done, done <+: calls →
    store.ListsOnce (stateAfter (store.handle Disk.handle) done disk)
      (stateAfter MemoryStore.handle done memory).maps

/-- A store in a directory and one in memory with the same objects answer any gets, creations and
updates alike, errors included, as long as no operation on files fails. After every call they hold
the same objects under all names, and the directory lists each of them once. -/
theorem agrees_with_memory {κ : Type} (store : FileStore) (disk : Disk) (memory : MemoryStore)
    (calls : List (κ × StoreCall)) (mirrors : store.Mirrors disk memory)
    (plain : ∀ call ∈ calls, call.2.Plain)
    (runs : ∀ step ∈ history (store.handle Disk.handle) calls disk,
      step.2.before.Runs (store.answer step.2.call)) :
    store.AnswersAlike disk memory calls := by
  obtain ⟨replies, kept⟩ := mirrors.run plain runs
  constructor
  · exact replies
  · intro done begins
    exact (kept done begins).contents_eq
  · intro done begins
    have after := kept done begins
    exact after.schemas.listsOnce after.distinct
  · intro done begins
    have after := kept done begins
    exact after.maps.listsOnce after.distinct

def configStore : FileStore := ⟨["config"]⟩

def configDirectories : Disk :=
  ⟨[(["config"], .directory), (["config", "schemas"], .directory),
    (["config", "resolver_maps"], .directory)]⟩

def submitted : Schema := { name := "orders", source := "type Query { total: Int }", version := 1 }

/-- Two clients, one of which is always late. -/
def racingCalls : List (Bool × StoreCall) :=
  [(true, .getSchema "orders"),
    (true, .updateSchema { submitted with resolverMap := "orders-resolvers" }),
    (false, .updateSchema { submitted with source := "type Query { count: Int }" }),
    (true, .createMap { name := "orders-resolvers" }),
    (false, .createMap { name := "orders-resolvers" }),
    (true, .updateMap { name := "orders-resolvers", version := 1 }),
    (false, .getMap "orders.toml"),
    (false, .updateMap { name := "orders.toml", version := 7 })]

theorem mirrors_configDirectories : configStore.Mirrors configDirectories {} := by
  constructor
  · unfold Disk.Distinct
    decide
  · exact .empty (Disk.look_eq_directory_iff.2 (by decide)) (by decide)
  · exact .empty (Disk.look_eq_directory_iff.2 (by decide)) (by decide)

/-- The document of a schema in a directory, and the schema in memory: the two stores answer the
racing clients alike. -/
theorem orders_answered_alike :
    ∃ content, renderDocument submitted = .ok content ∧
      configStore.Mirrors (configStore.withDocument configDirectories .schema "orders" content)
        { schemas := (∅ : Catalog Schema).put submitted } ∧
      (∀ call ∈ racingCalls, call.2.Plain) ∧
      (∀ step ∈ history (configStore.handle Disk.handle) racingCalls
          (configStore.withDocument configDirectories .schema "orders" content),
        step.2.before.Runs (configStore.answer step.2.call)) ∧
      configStore.AnswersAlike (configStore.withDocument configDirectories .schema "orders" content)
        { schemas := (∅ : Catalog Schema).put submitted } racingCalls := by
  have small : StoredObject.version submitted ≤ Toml.maxInteger := by decide
  obtain ⟨content, rendered⟩ := renderDocument_of_small small
  have fresh := mirrors_configDirectories
  have follows := fresh.schemas.withDocument (by decide) rendered (by decide)
  have mirrors : configStore.Mirrors
      (configStore.withDocument configDirectories .schema "orders" content)
      { schemas := (∅ : Catalog Schema).put submitted } :=
    ⟨follows.distinct fresh.distinct, follows.own,
      follows.others ResolverMap _ (by decide) fresh.maps⟩
  have plain : ∀ call ∈ racingCalls, call.2.Plain := by decide
  have runs := mirrors.runs_history plain (by decide)
  exact ⟨content, rendered, mirrors, plain, runs,
    agrees_with_memory configStore _ _ racingCalls mirrors plain runs⟩

end FileStore

end GatewayControl
