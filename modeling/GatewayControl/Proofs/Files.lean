import GatewayControl.Proofs.Directories
import GatewayControl.Proofs.Documents
import GatewayControl.Proofs.History
import GatewayControl.Proofs.Traversal

/-!
A store in a directory as a store of objects. What is stored under a name is what its document says,
so a call reads documents, or puts one document in the place of another, or does nothing.
-/

namespace GatewayControl.FileStore

open StoredObject

def way (store : FileStore) (kind : ObjectKind) : Path := Disk.resolve (store.directory kind)

theorem resolve_concat (path : Path) {name : String} (visible : name ≠ "" ∧ name ≠ ".") :
    Disk.resolve (path ++ [name]) = Disk.resolve path ++ [name] := by
  simp [Disk.resolve, visible]

theorem visible_of_length {name : String} (long : 2 ≤ name.length) : name ≠ "" ∧ name ≠ "." := by
  refine ⟨fun same => ?_, fun same => ?_⟩
  · rw [same] at long
    exact absurd long (by decide)
  · rw [same] at long
    exact absurd long (by decide)

theorem resolve_path (store : FileStore) (kind : ObjectKind) (name : String) :
    Disk.resolve (store.path kind name) = store.way kind ++ [name ++ "." ++ documentExtension] := by
  have lengths : ".".length = 1 ∧ documentExtension.length = 4 := by decide
  refine resolve_concat _ (visible_of_length ?_)
  simp only [String.length_append]
  omega

theorem resolve_temporaryPath (store : FileStore) (kind : ObjectKind) {name : String}
    (nonempty : name ≠ "") :
    Disk.resolve (temporaryPath (store.path kind name)) = store.way kind ++ [name ++ ".toml.tmp"] := by
  have length : ".toml.tmp".length = 9 := by decide
  rw [temporaryPath_path store kind nonempty]
  refine resolve_concat _ (visible_of_length ?_)
  simp only [String.length_append]
  omega

theorem way_eq (store : FileStore) (kind : ObjectKind) :
    store.way kind = Disk.resolve store.root ++ [directoryName kind] := by
  have visible : directoryName kind ≠ "" ∧ directoryName kind ≠ "." := by cases kind <;> decide
  exact resolve_concat _ visible

theorem way_length (store : FileStore) (kind other : ObjectKind) :
    (store.way kind).length = (store.way other).length := by
  simp [way_eq]

theorem way_inj {store : FileStore} {kind other : ObjectKind}
    (same : store.way kind = store.way other) : kind = other := by
  rw [way_eq, way_eq, List.append_cancel_left_eq, List.singleton_inj] at same
  revert same
  cases kind <;> cases other <;> decide

theorem documentFile_inj {name another : String}
    (same : name ++ "." ++ documentExtension = another ++ "." ++ documentExtension) : name = another := by
  rw [← String.toList_inj] at same
  exact String.toList_inj.1 (by simpa using same)

theorem resolve_path_inj {store : FileStore} {kind other : ObjectKind} {name another : String}
    (same : Disk.resolve (store.path kind name) = Disk.resolve (store.path other another)) :
    kind = other ∧ name = another := by
  rw [resolve_path, resolve_path] at same
  obtain ⟨ways, files⟩ := List.append_inj' same rfl
  exact ⟨way_inj ways, documentFile_inj (List.singleton_inj.1 files)⟩

theorem documentFile_lt (name : String) :
    (name ++ "." ++ documentExtension).utf8ByteSize < (name ++ ".toml.tmp").utf8ByteSize := by
  have sizes : ".".utf8ByteSize = 1 ∧ documentExtension.utf8ByteSize = 4 ∧
      ".toml.tmp".utf8ByteSize = 9 := by decide
  simp only [String.utf8ByteSize_append]
  omega

theorem documentFile_ne_temporary (name another : String) :
    another ++ "." ++ documentExtension ≠ name ++ ".toml.tmp" := by
  intro same
  have ends := congrArg (fun file : String => file.toList.getLast?) same
  have own : documentExtension.toList = ['t', 'o', 'm', 'l'] ∧
      ".toml.tmp".toList = ['.', 't', 'o', 'm', 'l', '.', 't', 'm', 'p'] := by decide
  simp [own] at ends

theorem path_ne_temporaryPath (store : FileStore) (kind other : ObjectKind) (name another : String) :
    store.way other ++ [another ++ "." ++ documentExtension] ≠ store.way kind ++ [name ++ ".toml.tmp"] := by
  intro same
  obtain ⟨-, files⟩ := List.append_inj' same rfl
  exact documentFile_ne_temporary name another (List.singleton_inj.1 files)

section

variable {α : Type} [StoredObject α]

def stored? (store : FileStore) (disk : Disk) (objectName : String) : Option α :=
  match disk.readText (Disk.resolve (store.path (kind α) objectName)) with
  | .error _ => none
  | .ok content =>
    match parseDocument (store.path (kind α) objectName) content with
    | .error _ => none
    | .ok object => if name object = objectName then some object else none

theorem name_of_parseDocument {path : Path} {content : String} {object : α}
    (parsed : parseDocument path content = .ok object) : name object = path.stem := by
  rw [parseDocument] at parsed
  split at parsed
  · cases parsed
  · split at parsed
    · rename_i same
      cases parsed
      exact same
    · cases parsed

theorem stored?_of_parse {store : FileStore} {disk : Disk} {objectName content : String} {object : α}
    (nonempty : objectName ≠ "")
    (read : disk.readText (Disk.resolve (store.path (kind α) objectName)) = .ok content)
    (parsed : parseDocument (store.path (kind α) objectName) content = .ok object) :
    store.stored? disk objectName = some object ∧ name object = objectName := by
  have named : name object = objectName := by
    rw [name_of_parseDocument parsed, stem_path store _ nonempty]
  simp [stored?, read, parsed, named]

/-- Nothing is stored without a name: the file of the empty name has no stem of its own. -/
theorem of_stored? {store : FileStore} {disk : Disk} {objectName : String} {object : α}
    (stored : store.stored? disk objectName = some object) :
    objectName ≠ "" ∧ ∃ content,
      disk.readText (Disk.resolve (store.path (kind α) objectName)) = .ok content ∧
        parseDocument (store.path (kind α) objectName) content = .ok object := by
  rw [stored?] at stored
  split at stored
  · cases stored
  · rename_i content read
    split at stored
    · cases stored
    · rename_i other parsed
      split at stored
      · rename_i named
        cases stored
        refine ⟨?_, content, read, parsed⟩
        rintro rfl
        have stem := name_of_parseDocument parsed
        rw [named, Path.stem, Path.fileName, path, List.getLast?_concat] at stem
        revert stem
        decide
      · cases stored

/-- Whether a disk differs from an earlier one by the document of an object. -/
structure Wrote (store : FileStore) (disk after : Disk) (object : α) : Prop where
  own : store.stored? after (name object) = some object
  others : ∀ other another, ¬(other = kind α ∧ another = name object) →
    after.readText (Disk.resolve (store.path other another)) =
      disk.readText (Disk.resolve (store.path other another))

theorem wrote_replaced [Documented α] {store : FileStore} {disk : Disk} {object : α} {content : String}
    (nonempty : name object ≠ "") (rendered : renderDocument object = .ok content)
    (reached : Disk.wayFault disk [] (store.way (kind α)) = none)
    (short : (name object ++ ".toml.tmp").utf8ByteSize ≤ Disk.maxNameLength) :
    store.Wrote disk (disk.replaced (store.way (kind α) ++ [name object ++ ".toml.tmp"])
      (store.way (kind α) ++ [name object ++ "." ++ documentExtension]) content) object := by
  constructor
  · refine (stored?_of_parse nonempty ?_ (parseDocument_renderDocument (stem_path store _ nonempty) rendered)).1
    have smaller := documentFile_lt (name object)
    rw [resolve_path]
    exact Disk.readText_replaced reached (by omega)
  · intro other another different
    rw [resolve_path]
    refine Disk.readText_replaced_of_ne (Nat.le_of_eq (way_length store _ _))
      (path_ne_temporaryPath store _ _ _ _) ?_
    rw [← resolve_path, ← resolve_path]
    exact fun same => different (resolve_path_inj same)

theorem run_write [Documented α] {store : FileStore} {disk : Disk} {object : α}
    (nonempty : name object ≠ "")
    (free : Disk.wayFault disk [] (store.way (kind α)) = none →
      disk.entry? (Disk.resolve (store.path (kind α) (name object))) ≠ some .directory) :
    (∃ fault, (write (store.path (kind α) (name object)) object).run Disk.handle disk =
      (.error fault, disk)) ∨
    ∃ after, (write (store.path (kind α) (name object)) object).run Disk.handle disk =
      (.ok object, after) ∧ store.Wrote disk after object := by
  rw [write]
  cases rendered : renderDocument object with
  | error fault => exact .inl ⟨fault, rfl⟩
  | ok content =>
      cases wrote : disk.writeFile (Disk.resolve (temporaryPath (store.path (kind α) (name object))))
          (.text content) with
      | error fault =>
          refine .inl ⟨ioFault fault, ?_⟩
          simp [Disk.handle, wrote, Disk.changed]
      | ok written =>
          rw [resolve_temporaryPath store _ nonempty] at wrote
          rw [resolve_path] at free
          obtain ⟨reached, short, -⟩ := Disk.writeFile_eq_ok_iff.1 wrote
          have smaller := documentFile_lt (name object)
          have different : name object ++ "." ++ documentExtension ≠ name object ++ ".toml.tmp" := by
            intro same
            rw [same] at smaller
            exact Nat.lt_irrefl _ smaller
          have renamed := Disk.rename_of_writeFile wrote different (Nat.le_of_lt smaller) (free reached)
          refine .inr ⟨_, ?_, wrote_replaced nonempty rendered reached short⟩
          simp [Disk.handle, resolve_temporaryPath store _ nonempty, resolve_path, wrote, Disk.changed, renamed]

def got (store : FileStore) (disk : Disk) (objectName : String) : Except StorageFault α :=
  ((store.read objectName).run Disk.handle disk).1

theorem got_eq (store : FileStore) (disk : Disk) (objectName : String) :
    store.got (α := α) disk objectName =
      match store.path? (kind α) objectName with
      | .error fault => .error fault
      | .ok path =>
        match disk.readText (Disk.resolve path) with
        | .error .notFound => .error (.notFound (kind α) objectName)
        | .error fault => .error (ioFault fault)
        | .ok content => parseDocument path content := by
  rw [got, read, path?]
  cases nameFault objectName with
  | some fault => rfl
  | none =>
      simp only [Program.run_call, Disk.handle]
      cases disk.readText (Disk.resolve (store.path (kind α) objectName)) with
      | error fault => cases fault <;> rfl
      | ok content => rfl

theorem run_read (store : FileStore) (objectName : String) (disk : Disk) :
    (store.read (α := α) objectName).run Disk.handle disk = (store.got disk objectName, disk) := by
  refine Prod.ext rfl ?_
  rw [read, path?]
  cases nameFault objectName with
  | some fault => rfl
  | none =>
      simp only [Program.run_call, Disk.handle]
      cases disk.readText (Disk.resolve (store.path (kind α) objectName)) with
      | error fault => cases fault <;> rfl
      | ok content => rfl

theorem stored?_of_got {store : FileStore} {disk : Disk} {objectName : String} {object : α}
    (given : store.got disk objectName = .ok object) :
    objectName ≠ "" ∧ store.stored? disk objectName = some object ∧ name object = objectName ∧
      ∃ content, disk.readText (Disk.resolve (store.path (kind α) objectName)) = .ok content := by
  rw [got_eq, path?] at given
  cases valid : nameFault objectName with
  | some fault =>
      rw [valid] at given
      cases given
  | none =>
      have nonempty := name_ne_empty valid
      simp only [valid] at given
      cases content : disk.readText (Disk.resolve (store.path (kind α) objectName)) with
      | error fault =>
          rw [content] at given
          cases fault <;> cases given
      | ok text =>
          rw [content] at given
          obtain ⟨stored, named⟩ := stored?_of_parse nonempty content given
          exact ⟨nonempty, stored, named, text, rfl⟩

theorem run_update [Documented α] (store : FileStore) (object : α) (disk : Disk) :
    (∃ fault, (store.update object).run Disk.handle disk = (.error fault, disk)) ∨
    ∃ (current : α) (after : Disk), store.stored? disk (name object) = some current ∧
      version object = version current ∧
      (store.update object).run Disk.handle disk =
        (.ok (withVersion object (nextVersion (version object))), after) ∧
      store.Wrote disk after (withVersion object (nextVersion (version object))) := by
  rw [update, Program.run_bind, run_read]
  cases given : store.got (α := α) disk (name object) with
  | error fault => exact .inl ⟨fault, rfl⟩
  | ok current =>
      obtain ⟨nonempty, stored, -, content, text⟩ := stored?_of_got given
      by_cases versions : version object = version current
      · have free : Disk.wayFault disk [] (store.way (kind α)) = none →
            disk.entry? (Disk.resolve (store.path (kind α) (name object))) ≠ some .directory := by
          intro _ directory
          rw [resolve_path] at text directory
          have entry := (Disk.readText_eq_ok_iff.1 text).2.2
          rw [directory] at entry
          cases entry
        have named : name (withVersion object (nextVersion (version object))) = name object :=
          name_withVersion object _
        rw [← named] at nonempty free
        have written := run_write nonempty free
        rw [named] at written
        simp only [versions, if_true] at written ⊢
        rcases written with failed | ⟨after, wrote, change⟩
        · exact .inl failed
        · exact .inr ⟨current, after, stored, rfl, wrote, change⟩
      · simp only [versions, if_false]
        exact .inl ⟨_, rfl⟩

theorem run_create [Documented α] (store : FileStore) (object : α) (disk : Disk) :
    (∃ fault, (store.create object).run Disk.handle disk = (.error fault, disk)) ∨
    ∃ after : Disk, store.stored? (α := α) disk (name object) = none ∧
      (store.create object).run Disk.handle disk = (.ok (withVersion object 1), after) ∧
      store.Wrote disk after (withVersion object 1) := by
  rw [create, path?]
  cases valid : nameFault (name object) with
  | some fault => exact .inl ⟨_, rfl⟩
  | none =>
      have nonempty := name_ne_empty valid
      simp only [Program.run_call, Disk.handle]
      cases there : disk.isThere (Disk.resolve (store.path (kind α) (name object))) with
      | error fault => exact .inl ⟨_, rfl⟩
      | ok present =>
          cases present with
          | true => exact .inl ⟨_, rfl⟩
          | false =>
              have missing := Disk.isThere_eq_false_iff.1 there
              have absent : store.stored? (α := α) disk (name object) = none := by
                simp [stored?, Disk.readText, missing]
              have free : Disk.wayFault disk [] (store.way (kind α)) = none →
                  disk.entry? (Disk.resolve (store.path (kind α) (name object))) ≠
                    some .directory := by
                intro reached directory
                rw [resolve_path] at missing directory
                rw [Disk.entry?_of_missing reached missing] at directory
                cases directory
              have named : name (withVersion object 1) = name object := name_withVersion object 1
              rw [← named] at nonempty free
              have written := run_write nonempty free
              rw [named] at written
              rcases written with failed | ⟨after, wrote, change⟩
              · exact .inl failed
              · exact .inr ⟨after, absent, wrote, change⟩

def load (disk : Disk) (path : Path) : Except StorageFault α :=
  match disk.readText (Disk.resolve path) with
  | .error fault => .error (ioFault fault)
  | .ok content => parseDocument path content

theorem run_readAll (paths : List Path) (disk : Disk) :
    (readAll (α := α) paths).run Disk.handle disk = (paths.mapM (load disk), disk) := by
  induction paths with
  | nil => rfl
  | cons path paths ih =>
      rw [readAll, Program.run_call, List.mapM_cons, load]
      simp only [Disk.handle]
      cases disk.readText (Disk.resolve path) with
      | error fault => rfl
      | ok content =>
          cases parsed : parseDocument (α := α) path content with
          | error fault => simp only [parsed]; rfl
          | ok object =>
              simp only [parsed, Program.run_bind, ih]
              cases paths.mapM (load (α := α) disk) <;> rfl

def listed (store : FileStore) (disk : Disk) : Except StorageFault (List α) :=
  (store.list.run Disk.handle disk).1

theorem run_list_eq (store : FileStore) (disk : Disk) :
    (store.list (α := α)).run Disk.handle disk =
      match disk.look (store.way (kind α)) with
      | .error fault => (.error (ioFault fault), disk)
      | .ok .directory => ((documentNames (disk.namesIn (store.way (kind α)))).mapM fun file =>
          load disk (store.directory (kind α) ++ [file]), disk)
      | .ok _ => (.error (ioFault .notDirectory), disk) := by
  rw [list, Program.run_call]
  simp only [Disk.handle, Disk.list_eq, way]
  cases disk.look (Disk.resolve (store.directory (kind α))) with
  | error fault => rfl
  | ok entry =>
      cases entry with
      | directory =>
          simp only [run_readAll, List.mapM_map]
          rfl
      | text | bytes => rfl

theorem listed_eq (store : FileStore) (disk : Disk) :
    store.listed (α := α) disk =
      match disk.look (store.way (kind α)) with
      | .error fault => .error (ioFault fault)
      | .ok .directory => (documentNames (disk.namesIn (store.way (kind α)))).mapM fun file =>
          load disk (store.directory (kind α) ++ [file])
      | .ok _ => .error (ioFault .notDirectory) := by
  rw [listed, run_list_eq]
  cases disk.look (store.way (kind α)) with
  | error fault => rfl
  | ok entry => cases entry <;> rfl

theorem run_list (store : FileStore) (disk : Disk) :
    (store.list (α := α)).run Disk.handle disk = (store.listed disk, disk) := by
  refine Prod.ext rfl ?_
  rw [run_list_eq]
  cases disk.look (store.way (kind α)) with
  | error fault => rfl
  | ok entry => cases entry <;> rfl

theorem stored?_of_load {store : FileStore} {disk : Disk} {objectName : String} {object : α}
    (nonempty : objectName ≠ "") (loaded : load disk (store.path (kind α) objectName) = .ok object) :
    store.stored? disk objectName = some object ∧ name object = objectName := by
  rw [load] at loaded
  cases content : disk.readText (Disk.resolve (store.path (kind α) objectName)) with
  | error fault =>
      rw [content] at loaded
      cases loaded
  | ok text =>
      rw [content] at loaded
      exact stored?_of_parse nonempty content loaded

theorem mem_documentNames {file : String} {names : List String} :
    file ∈ documentNames names ↔
      file ∈ names ∧ Path.nameExtension file = some documentExtension := by
  rw [documentNames, List.mem_mergeSort, List.mem_filter, decide_eq_true_eq]

theorem stored?_of_listed {store : FileStore} {disk : Disk} {objects : List α}
    (given : store.listed disk = .ok objects) {object : α} (member : object ∈ objects) :
    store.stored? disk (name object) = some object := by
  rw [listed_eq] at given
  split at given
  · cases given
  · obtain ⟨file, document, loaded⟩ := (mapM_eq_ok given).2 object member
    obtain ⟨objectName, nonempty, rfl⟩ := file_of_extension (mem_documentNames.1 document).2
    obtain ⟨stored, named⟩ := stored?_of_load nonempty loaded
    exact named ▸ stored
  · cases given

end

/-! A file store as contents. -/

def contents (store : FileStore) (disk : Disk) : Contents
  | ⟨.schema, objectName⟩ => (store.stored? disk objectName).map .schema
  | ⟨.resolverMap, objectName⟩ => (store.stored? disk objectName).map .resolverMap

theorem stored?_congr {α : Type} [StoredObject α] {store : FileStore} {disk after : Disk}
    {objectName : String}
    (same : after.readText (Disk.resolve (store.path (kind α) objectName)) =
      disk.readText (Disk.resolve (store.path (kind α) objectName))) :
    store.stored? (α := α) after objectName = store.stored? disk objectName := by
  rw [stored?, stored?, same]

theorem contents_congr {store : FileStore} {disk after : Disk} {ref : ObjectRef}
    (same : after.readText (Disk.resolve (store.path ref.kind ref.name)) =
      disk.readText (Disk.resolve (store.path ref.kind ref.name))) :
    store.contents after ref = store.contents disk ref := by
  obtain ⟨refKind, objectName⟩ := ref
  cases refKind with
  | schema => exact congrArg (Option.map StoredItem.schema) (stored?_congr same)
  | resolverMap => exact congrArg (Option.map StoredItem.resolverMap) (stored?_congr same)

theorem Wrote.contents_eq {α : Type} [StoredObject α] {store : FileStore} {disk after : Disk}
    {object : α} (wrote : store.Wrote disk after object) {item : α → StoredItem}
    (holds : ∀ disk objectName, store.contents disk ⟨kind α, objectName⟩ =
      (store.stored? disk objectName).map item)
    (own : (item object).ref = ⟨kind α, name object⟩) :
    store.contents after = (store.contents disk).put (item object) := by
  funext ref
  by_cases here : ref = (item object).ref
  · rw [here, Contents.put_self, own, holds, wrote.own, Option.map_some]
  · rw [Contents.put_of_ne _ here]
    refine contents_congr (wrote.others _ _ ?_)
    rintro ⟨sameKind, sameName⟩
    rw [own] at here
    exact here (by rw [← sameKind, ← sameName])

section

variable {store : FileStore} {disk : Disk} {objectName : String}

theorem contents_schema {found : Option Schema} (stored : store.stored? disk objectName = found) :
    store.contents disk ⟨.schema, objectName⟩ = found.map StoredItem.schema :=
  congrArg (Option.map StoredItem.schema) stored

theorem contents_map {found : Option ResolverMap} (stored : store.stored? disk objectName = found) :
    store.contents disk ⟨.resolverMap, objectName⟩ = found.map StoredItem.resolverMap :=
  congrArg (Option.map StoredItem.resolverMap) stored

end

theorem answer_answers (store : FileStore) (call : StoreCall) (disk : Disk) :
    (store.contents disk).Answers call ((store.answer call).run Disk.handle disk).1
      (store.contents ((store.answer call).run Disk.handle disk).2) ∧
    ∀ fault, ((store.answer call).run Disk.handle disk).1 = .error fault →
      ((store.answer call).run Disk.handle disk).2 = disk := by
  cases call with
  | getSchema objectName =>
      simp only [answer, run_read]
      refine ⟨?_, fun _ _ => trivial⟩
      cases given : store.got (α := Schema) disk objectName with
      | error fault => exact .failed _ _ _
      | ok schema =>
          obtain ⟨-, stored, named, -⟩ := stored?_of_got given
          subst named
          exact .kept rfl rfl (List.forall_mem_singleton.2 (contents_schema stored))
  | updateSchema schema =>
      rcases run_update store schema disk with ⟨fault, ran⟩ | ⟨current, after, stored, same, ran, wrote⟩
      · simp only [answer, ran]
        exact ⟨.failed _ _ _, fun _ _ => trivial⟩
      · simp only [answer, ran]
        refine ⟨?_, fun _ failed => nomatch failed⟩
        rw [wrote.contents_eq (fun _ _ => rfl) rfl]
        exact @Contents.Answers.updated _ _ _ (.schema schema) _ rfl rfl (contents_schema stored) same rfl
  | listSchemas =>
      simp only [answer, run_list]
      refine ⟨?_, fun _ _ => trivial⟩
      cases given : store.listed (α := Schema) disk with
      | error fault => exact .failed _ _ _
      | ok schemas =>
          exact .kept rfl rfl (List.forall_mem_map.2 fun schema member =>
            contents_schema (stored?_of_listed given member))
  | getMap objectName =>
      simp only [answer, run_read]
      refine ⟨?_, fun _ _ => trivial⟩
      cases given : store.got (α := ResolverMap) disk objectName with
      | error fault => exact .failed _ _ _
      | ok map =>
          obtain ⟨-, stored, named, -⟩ := stored?_of_got given
          subst named
          exact .kept rfl rfl (List.forall_mem_singleton.2 (contents_map stored))
  | createMap map =>
      rcases run_create store map disk with ⟨fault, ran⟩ | ⟨after, absent, ran, wrote⟩
      · simp only [answer, ran]
        exact ⟨.failed _ _ _, fun _ _ => trivial⟩
      · simp only [answer, ran]
        refine ⟨?_, fun _ failed => nomatch failed⟩
        rw [wrote.contents_eq (fun _ _ => rfl) rfl]
        exact @Contents.Answers.created _ _ _ (.resolverMap map) rfl rfl (contents_map absent) rfl
  | updateMap map =>
      rcases run_update store map disk with ⟨fault, ran⟩ | ⟨current, after, stored, same, ran, wrote⟩
      · simp only [answer, ran]
        exact ⟨.failed _ _ _, fun _ _ => trivial⟩
      · simp only [answer, ran]
        refine ⟨?_, fun _ failed => nomatch failed⟩
        rw [wrote.contents_eq (fun _ _ => rfl) rfl]
        exact @Contents.Answers.updated _ _ _ (.resolverMap map) _ rfl rfl (contents_map stored) same rfl
  | listMaps =>
      simp only [answer, run_list]
      refine ⟨?_, fun _ _ => trivial⟩
      cases given : store.listed (α := ResolverMap) disk with
      | error fault => exact .failed _ _ _
      | ok maps =>
          exact .kept rfl rfl (List.forall_mem_map.2 fun map member =>
            contents_map (stored?_of_listed given member))

/-- A file store answers from what it holds, and changes nothing when it fails. -/
theorem versioned (store : FileStore) : Versioned (store.handle Disk.handle) store.contents where
  answers call disk := (store.answer_answers call disk).1
  failed call disk fault := (store.answer_answers call disk).2 fault

end GatewayControl.FileStore
