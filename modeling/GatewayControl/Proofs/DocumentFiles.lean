import GatewayControl.Proofs.Atomicity
import GatewayControl.Proofs.Backends
import GatewayControl.Proofs.Names
import GatewayControl.Proofs.Slices

/-!
Documents found by their files. A valid name may have dots anywhere and may end like a file, but its
file tells it, and no file that is written first is taken for a document. So what a store has
written is read under its name, and listed once, whatever has failed in between.
-/

namespace GatewayControl

def StoreCall.written? : (call : StoreCall) → call.Reply → Option StoredItem
  | .updateSchema _, .ok schema => some (.schema schema)
  | .createMap _, .ok map | .updateMap _, .ok map => some (.resolverMap map)
  | _, _ => none

theorem FaultyDisk.distinct_handle (call : DiskCall) (disk : FaultyDisk) (distinct : disk.tree.Distinct) :
    (FaultyDisk.handle call disk).2.tree.Distinct := by
  rw [handle]
  cases disk.hitches.head?.join with
  | none => exact distinct.handle call
  | some hitch =>
      rcases tree_damaged disk.tree call hitch with same | ⟨path, content, left, -, wrote⟩
      · change (damaged disk.tree call hitch).Distinct
        rwa [same]
      · exact distinct.writeFile wrote

namespace FileStore

open StoredObject

/-! The file of a name. -/

/-- Whether the files of a name are in the directory of its kind, and tell the name and what they
are. -/
structure FiledUnder (store : FileStore) (kind : ObjectKind) (name : String) : Prop where
  accepted : store.path? kind name = .ok (store.path kind name)
  joined : Path.within (store.directory kind) (name ++ ".toml") = store.path kind name
  child : store.path kind name = store.directory kind ++ [(store.path kind name).fileName]
  extension : Path.nameExtension (store.path kind name).fileName = some "toml"
  stem : (store.path kind name).stem = name
  temporaryChild : temporaryPath (store.path kind name) =
    store.directory kind ++ [(temporaryPath (store.path kind name)).fileName]
  temporaryExtension :
    Path.nameExtension (temporaryPath (store.path kind name)).fileName = some "tmp"
  resolved : Disk.resolve (store.path kind name) =
    store.way kind ++ [(store.path kind name).fileName]
  temporaryResolved : Disk.resolve (temporaryPath (store.path kind name)) =
    store.way kind ++ [(temporaryPath (store.path kind name)).fileName]
  /-- Of the files in a directory, the document is picked, and what is written first is not. -/
  picked : ∀ files : List String, files.Nodup → (store.path kind name).fileName ∈ files →
    (documentNames files).count (store.path kind name).fileName = 1
  unpicked : ∀ files, (temporaryPath (store.path kind name)).fileName ∉ documentNames files

theorem fileName_path (store : FileStore) (kind : ObjectKind) (name : String) :
    (store.path kind name).fileName = name ++ "." ++ documentExtension := by
  rw [Path.fileName, path, List.getLast?_concat, Option.getD_some]

theorem fileName_temporaryPath (store : FileStore) (kind : ObjectKind) {name : String}
    (nonempty : name ≠ "") : (temporaryPath (store.path kind name)).fileName = name ++ ".toml.tmp" := by
  rw [temporaryPath_path store kind nonempty, Path.fileName, List.getLast?_concat, Option.getD_some]

/-- A valid name has no slash, so its file is no way to another directory. -/
theorem within_directory {name : String} (valid : ValidName name) (directory : Path) :
    Path.within directory (name ++ ".toml") = directory ++ [name ++ ".toml"] := by
  have absent : '/' ∉ (name ++ ".toml").toList := by
    rw [String.toList_append, List.mem_append, not_or]
    refine ⟨fun member => ?_, by decide⟩
    have accepted := (validName_iff.1 valid).2.1 '/' member
    exact absurd accepted (by decide)
  have relative : (name ++ ".toml").toList.head? ≠ some '/' :=
    fun first => absent (List.mem_of_head? first)
  rw [Path.within, if_neg relative, Path.parse, Text.splitAt_of_notMem absent, List.map_singleton,
    String.ofList_toList]

theorem count_documentNames {file : String} {files : List String} (distinct : files.Nodup)
    (member : file ∈ files) (document : Path.nameExtension file = some documentExtension) :
    (documentNames files).count file = 1 :=
  List.count_eq_one_of_mem (nodup_documentNames distinct) (mem_documentNames.2 ⟨member, document⟩)

theorem filedUnder (store : FileStore) (kind : ObjectKind) {name : String} (valid : ValidName name) :
    store.FiledUnder kind name := by
  have nonempty := name_ne_empty valid
  have fileName := fileName_path store kind name
  have temporary := fileName_temporaryPath store kind nonempty
  constructor
  · rw [path?, show nameFault name = none from valid]
  · rw [within_directory valid, path, String.append_assoc]
    rfl
  · rw [fileName]
    rfl
  · rw [fileName, Path.nameExtension, splitName_document nonempty]
    rfl
  · exact stem_path store kind nonempty
  · rw [temporary]
    exact temporaryPath_path store kind nonempty
  · rw [temporary, Path.nameExtension, splitName_temporary]
    rfl
  · rw [fileName]
    exact resolve_path store kind name
  · rw [temporary]
    exact resolve_temporaryPath store kind nonempty
  · intro files distinct member
    rw [fileName] at member ⊢
    exact count_documentNames distinct member (nameExtension_document nonempty)
  · intro files member
    rw [temporary] at member
    exact nameExtension_temporary name (mem_documentNames.1 member).2

/-! What is on a disk for an object. -/

section

variable {α : Type} [StoredObject α]

/-- Whether an object is read under its name, and is listed once if all is listed. -/
structure PickedUp (store : FileStore) (disk : Disk) (object : α) : Prop where
  valid : ValidName (name object)
  read : store.got disk (name object) = .ok object
  once : (documentNames (disk.namesIn (store.way (kind α)))).count
    (store.path (kind α) (name object)).fileName = 1
  listed : ∀ objects, store.listed disk = .ok objects →
    (objects.filter fun other => name other = name object) = [object]

variable {store : FileStore} {disk : Disk}

theorem valid_of_got {objectName : String} {object : α}
    (given : store.got disk objectName = .ok object) : ValidName objectName := by
  rw [got_eq, path?] at given
  cases valid : nameFault objectName with
  | some fault =>
      rw [valid] at given
      cases given
  | none => exact valid

theorem filter_name_eq {objects : List α} {object : α} (distinct : (objects.map name).Nodup)
    (member : object ∈ objects) :
    (objects.filter fun other => name other = name object) = [object] := by
  obtain ⟨before, after, rfl⟩ := List.append_of_mem member
  rw [List.map_append, List.map_cons] at distinct
  obtain ⟨-, later, apart⟩ := List.nodup_append.1 distinct
  have none_before : (before.filter fun other => name other = name object) = [] := by
    refine List.filter_eq_nil_iff.2 fun other own same => ?_
    exact apart _ (List.mem_map_of_mem own) _ List.mem_cons_self (of_decide_eq_true same)
  have none_after : (after.filter fun other => name other = name object) = [] := by
    refine List.filter_eq_nil_iff.2 fun other own same => ?_
    have taken := List.mem_map_of_mem (f := name) own
    rw [of_decide_eq_true same] at taken
    exact (List.nodup_cons.1 later).1 taken
  simp [none_before, none_after]

theorem pickedUp_of_got (distinct : disk.Distinct) {object : α}
    (given : store.got disk (name object) = .ok object) : store.PickedUp disk object := by
  obtain ⟨nonempty, stored, -⟩ := stored?_of_got given
  obtain ⟨-, content, read, parsed⟩ := of_stored? stored
  have there := read
  rw [resolve_path] at there
  have member : name object ++ "." ++ documentExtension ∈ disk.namesIn (store.way (kind α)) :=
    Disk.mem_namesIn.2 (by rw [(Disk.readText_eq_ok_iff.1 there).2.2]; exact nofun)
  refine ⟨valid_of_got given, given, ?_, fun objects all => ?_⟩
  · rw [fileName_path]
    exact count_documentNames (distinct.nodup_namesIn _) member (nameExtension_document nonempty)
  · exact filter_name_eq (nodup_names_of_listed distinct all) (mem_listed nonempty all read parsed)

end

/-! Runs of calls on a disk whose operations may fail. -/

def Listable (store : FileStore) (disk : Disk) : Prop :=
  (∃ schemas : List Schema, store.listed disk = .ok schemas) ∧
    ∃ maps : List ResolverMap, store.listed disk = .ok maps

def ItemPickedUp (store : FileStore) (disk : Disk) : StoredItem → Prop
  | .schema schema => store.PickedUp disk schema
  | .resolverMap map => store.PickedUp disk map

def ReadsItem (store : FileStore) (disk : Disk) : StoredItem → Prop
  | .schema schema => store.got disk schema.name = .ok schema
  | .resolverMap map => store.got disk map.name = .ok map

def PlacesItem (store : FileStore) (disk after : Disk) : StoredItem → Prop
  | .schema schema => store.Places disk after schema
  | .resolverMap map => store.Places disk after map

section

variable {store : FileStore} {disk after : Disk} {item : StoredItem}

theorem pickedUp_of_reads (distinct : disk.Distinct) (reads : store.ReadsItem disk item) :
    store.ItemPickedUp disk item := by
  cases item with
  | schema schema => exact pickedUp_of_got distinct reads
  | resolverMap map => exact pickedUp_of_got distinct reads

theorem PlacesItem.reads (places : store.PlacesItem disk after item) : store.ReadsItem after item := by
  cases item with
  | schema schema => exact places.own
  | resolverMap map => exact places.own

theorem PlacesItem.keeps {placed : StoredItem} (places : store.PlacesItem disk after placed)
    (reads : store.ReadsItem disk item) :
    ∃ last, last.ref = item.ref ∧ store.ReadsItem after last := by
  by_cases same : placed.ref = item.ref
  · exact ⟨placed, same, places.reads⟩
  · refine ⟨item, rfl, ?_⟩
    cases placed with
    | schema placed =>
        cases item with
        | schema schema =>
            exact (Places.gets places Schema schema.name fun own =>
              same (congrArg (ObjectRef.mk .schema) own.2.symm)).trans reads
        | resolverMap map =>
            have kept := Places.gets places ResolverMap map.name fun own => nomatch own.1
            exact kept.trans reads
    | resolverMap placed =>
        cases item with
        | schema schema =>
            have kept := Places.gets places Schema schema.name fun own => nomatch own.1
            exact kept.trans reads
        | resolverMap map =>
            exact (Places.gets places ResolverMap map.name fun own =>
              same (congrArg (ObjectRef.mk .resolverMap) own.2.symm)).trans reads

theorem exists_ok_of_map_eq {α β : Type} {first second : Except StorageFault α} {f : α → β}
    (same : first.map f = second.map f) (given : ∃ value, second = .ok value) :
    ∃ value, first = .ok value := by
  obtain ⟨value, rfl⟩ := given
  cases first with
  | error fault => cases same
  | ok own => exact ⟨own, rfl⟩

theorem PlacesItem.listable (places : store.PlacesItem disk after item)
    (listable : store.Listable disk) : store.Listable after := by
  obtain ⟨schemas, maps⟩ := listable
  cases item with
  | schema schema =>
      exact ⟨exists_ok_of_map_eq (Places.others places) schemas,
        by rwa [Places.lists places ResolverMap (by decide)]⟩
  | resolverMap map =>
      exact ⟨by rwa [Places.lists places Schema (by decide)],
        exists_ok_of_map_eq (Places.others places) maps⟩

theorem ReadsAlike.reads (alike : store.ReadsAlike disk after) (reads : store.ReadsItem disk item) :
    store.ReadsItem after item := by
  cases item with
  | schema schema => exact (alike.gets Schema schema.name).trans reads
  | resolverMap map => exact (alike.gets ResolverMap map.name).trans reads

theorem ReadsAlike.listable (alike : store.ReadsAlike disk after) (listable : store.Listable disk) :
    store.Listable after := by
  rw [Listable, alike.lists Schema, alike.lists ResolverMap]
  exact listable

theorem readsAlike_of_eq (same : after = disk) : store.ReadsAlike disk after :=
  same ▸ .refl store after

end

section

variable {α : Type} [StoredObject α]

theorem run_readAll_faulty (paths : List Path) (disk : FaultyDisk) :
    ((readAll (α := α) paths).run FaultyDisk.handle disk).2.tree = disk.tree := by
  induction paths generalizing disk with
  | nil => rfl
  | cons path paths ih =>
      rw [readAll, Program.run_call]
      cases first : (FaultyDisk.handle (.readText path) disk).1 with
      | error fault => exact FaultyDisk.kept_of_error first (by simp)
      | ok content =>
          have same := (congrArg Prod.snd (FaultyDisk.handle_ok first)).symm
          dsimp only
          cases parsed : parseDocument (α := α) path content with
          | error fault => exact same
          | ok object =>
              simp only [Program.run_bind]
              refine Eq.trans ?_ ((ih _).trans same)
              split <;> rfl

theorem run_list_faulty (store : FileStore) (disk : FaultyDisk) :
    ((store.list (α := α)).run FaultyDisk.handle disk).2.tree = disk.tree := by
  rw [list, Program.run_call]
  cases first : (FaultyDisk.handle (.list (store.directory (kind α))) disk).1 with
  | error fault => exact FaultyDisk.kept_of_error first (by simp)
  | ok names =>
      have same := (congrArg Prod.snd (FaultyDisk.handle_ok first)).symm
      exact (run_readAll_faulty _ _).trans same

end

theorem Whole.cases {α : Type} [StoredObject α] {store : FileStore} {disk : Disk} {objectName : String}
    {result : Except StorageFault α × FaultyDisk} (whole : store.Whole disk objectName result) :
    (∃ fault, result.1 = .error fault ∧ store.ReadsAlike disk result.2.tree) ∨
      ∃ object, result.1 = .ok object ∧ store.Places disk result.2.tree object := by
  obtain ⟨reply, after⟩ := result
  cases reply with
  | error fault => exact .inl ⟨fault, rfl, whole⟩
  | ok object => exact .inr ⟨object, rfl, whole.2⟩

theorem handle_faulty (store : FileStore) (call : StoreCall) (disk : FaultyDisk) :
    (call.written? (store.handle FaultyDisk.handle call disk).1 = none ∧
      store.ReadsAlike disk.tree (store.handle FaultyDisk.handle call disk).2.tree) ∨
    ∃ item, call.written? (store.handle FaultyDisk.handle call disk).1 = some item ∧
      store.PlacesItem disk.tree (store.handle FaultyDisk.handle call disk).2.tree item := by
  cases call with
  | getSchema objectName =>
      exact .inl ⟨rfl, readsAlike_of_eq (run_read_faulty (α := Schema) store objectName disk).1⟩
  | listSchemas => exact .inl ⟨rfl, readsAlike_of_eq (run_list_faulty (α := Schema) store disk)⟩
  | getMap objectName =>
      exact .inl ⟨rfl, readsAlike_of_eq (run_read_faulty (α := ResolverMap) store objectName disk).1⟩
  | listMaps => exact .inl ⟨rfl, readsAlike_of_eq (run_list_faulty (α := ResolverMap) store disk)⟩
  | updateSchema schema =>
      rcases (whole_update store schema disk).cases with ⟨_, failed, alike⟩ | ⟨stored, given, places⟩
      · exact .inl ⟨congrArg (StoreCall.updateSchema schema).written? failed, alike⟩
      · exact .inr ⟨.schema stored, congrArg (StoreCall.updateSchema schema).written? given, places⟩
  | createMap map =>
      rcases (whole_create store map disk).cases with ⟨_, failed, alike⟩ | ⟨stored, given, places⟩
      · exact .inl ⟨congrArg (StoreCall.createMap map).written? failed, alike⟩
      · exact .inr ⟨.resolverMap stored, congrArg (StoreCall.createMap map).written? given, places⟩
  | updateMap map =>
      rcases (whole_update store map disk).cases with ⟨_, failed, alike⟩ | ⟨stored, given, places⟩
      · exact .inl ⟨congrArg (StoreCall.updateMap map).written? failed, alike⟩
      · exact .inr ⟨.resolverMap stored, congrArg (StoreCall.updateMap map).written? given, places⟩

theorem distinct_handle (store : FileStore) (call : StoreCall) {disk : FaultyDisk}
    (distinct : disk.tree.Distinct) :
    (store.handle FaultyDisk.handle call disk).2.tree.Distinct :=
  Program.holds_at_end (store.answer call) (fun disk : FaultyDisk => disk.tree.Distinct) distinct
    fun call disk => FaultyDisk.distinct_handle call disk

/-- Whether what was readable stays so, each name with the object that was stored last. -/
structure Keeps (store : FileStore) (disk after : Disk) : Prop where
  distinct : disk.Distinct → after.Distinct
  listable : store.Listable disk → store.Listable after
  reads : ∀ item, store.ReadsItem disk item → ∃ last, last.ref = item.ref ∧ store.ReadsItem after last

theorem Keeps.trans {store : FileStore} {disk middle after : Disk} (one : store.Keeps disk middle)
    (two : store.Keeps middle after) : store.Keeps disk after := by
  refine ⟨two.distinct ∘ one.distinct, two.listable ∘ one.listable, fun item reads => ?_⟩
  obtain ⟨next, nextRef, readsNext⟩ := one.reads item reads
  obtain ⟨last, lastRef, readsLast⟩ := two.reads next readsNext
  exact ⟨last, lastRef.trans nextRef, readsLast⟩

theorem keeps_handle (store : FileStore) (call : StoreCall) (disk : FaultyDisk) :
    store.Keeps disk.tree (store.handle FaultyDisk.handle call disk).2.tree := by
  refine ⟨distinct_handle store call, ?_, ?_⟩
  · rcases handle_faulty store call disk with ⟨-, alike⟩ | ⟨item, -, places⟩
    · exact alike.listable
    · exact places.listable
  · intro item reads
    rcases handle_faulty store call disk with ⟨-, alike⟩ | ⟨placed, -, places⟩
    · exact ⟨item, rfl, alike.reads reads⟩
    · exact places.keeps reads

section

variable {κ : Type}

theorem keeps_run (store : FileStore) (calls : List (κ × StoreCall)) (disk : FaultyDisk) :
    store.Keeps disk.tree (stateAfter (store.handle FaultyDisk.handle) calls disk).tree := by
  induction calls generalizing disk with
  | nil => exact ⟨id, id, fun item reads => ⟨item, rfl, reads⟩⟩
  | cons call calls ih => exact (keeps_handle store call.2 disk).trans (ih _)

theorem written_run {store : FileStore} {calls : List (κ × StoreCall)} {disk : FaultyDisk}
    (distinct : disk.tree.Distinct) {client : κ} {step : GatewayControl.Step StoreCall.Reply FaultyDisk}
    (member : (client, step) ∈ history (store.handle FaultyDisk.handle) calls disk) {item : StoredItem}
    (written : step.call.written? step.reply = some item) :
    store.ItemPickedUp step.after.tree item ∧ ∃ last, last.ref = item.ref ∧
      store.ItemPickedUp (stateAfter (store.handle FaultyDisk.handle) calls disk).tree last := by
  induction calls generalizing disk with
  | nil => exact (List.not_mem_nil member).elim
  | cons call calls ih =>
      -- The object is there after its own call, and the calls after that keep something of its name.
      have after := distinct_handle store call.2 distinct
      rcases List.mem_cons.1 member with same | later
      · cases same
        rcases handle_faulty store call.2 disk with ⟨nothing, -⟩ | ⟨own, placed, places⟩
        · cases nothing.symm.trans written
        · cases placed.symm.trans written
          have kept := keeps_run store calls (store.handle FaultyDisk.handle call.2 disk).2
          obtain ⟨last, lastRef, reads⟩ := kept.reads item places.reads
          exact ⟨pickedUp_of_reads after places.reads, last, lastRef,
            pickedUp_of_reads (kept.distinct after) reads⟩
      · exact ih after later

end

/-- Under every valid name, the file of a store is in the directory of its kind and tells the name and
its extension; no two names have the same file, and what is written first stands in the way of none.
Whatever calls are made and whatever fails, each object that was stored is read under its name, and
listed once. -/
theorem documents_found_by_name (store : FileStore) :
    (∀ kind name, ValidName name → store.FiledUnder kind name) ∧
    (∀ kind other name another,
      Disk.resolve (store.path kind name) = Disk.resolve (store.path other another) →
      kind = other ∧ name = another) ∧
    (∀ kind other name another, ValidName name →
      Disk.resolve (temporaryPath (store.path kind name)) ≠ Disk.resolve (store.path other another)) ∧
    ∀ (κ : Type) (calls : List (κ × StoreCall)) (disk : FaultyDisk), disk.tree.Distinct →
      (∀ client step item, (client, step) ∈ history (store.handle FaultyDisk.handle) calls disk →
        step.call.written? step.reply = some item →
        store.ItemPickedUp step.after.tree item ∧ ∃ last, last.ref = item.ref ∧
          store.ItemPickedUp (stateAfter (store.handle FaultyDisk.handle) calls disk).tree last) ∧
      (store.Listable disk.tree →
        store.Listable (stateAfter (store.handle FaultyDisk.handle) calls disk).tree) := by
  refine ⟨fun kind name valid => filedUnder store kind valid, ?_, ?_, ?_⟩
  · intro kind other name another same
    exact resolve_path_inj same
  · intro kind other name another valid
    rw [resolve_temporaryPath store kind (name_ne_empty valid), resolve_path]
    exact (path_ne_temporaryPath store kind other name another).symm
  · intro κ calls disk distinct
    refine ⟨fun client step item member written => ?_, (keeps_run store calls disk).listable⟩
    exact written_run distinct member written

/-- A disk that breaks off the first writing of a file. -/
def crowdedDisk : FaultyDisk :=
  ⟨configDirectories, [none, some (.cut (.other "No space left on device (os error 28)")
    ⟨.text "name", nofun⟩)]⟩

def dottedCalls : List (Unit × StoreCall) :=
  [((), .createMap { name := ".toml" }), ((), .createMap { name := ".toml" }),
    ((), .createMap { name := ".toml.tmp" })]

theorem dotted_names_found :
    (∀ name ∈ [".toml", "...", "orders.", "orders.toml.tmp"],
      ValidName name ∧ configStore.FiledUnder .resolverMap name) ∧
    Disk.resolve (temporaryPath (configStore.path .resolverMap "orders")) ≠
      Disk.resolve (configStore.path .resolverMap "orders.toml.tmp") ∧
    (∃ step ∈ history (configStore.handle FaultyDisk.handle) dottedCalls crowdedDisk,
      step.2.call.written? step.2.reply = some (.resolverMap { name := ".toml", version := 1 }) ∧
      configStore.ItemPickedUp step.2.after.tree (.resolverMap { name := ".toml", version := 1 })) ∧
    configStore.Listable
      (stateAfter (configStore.handle FaultyDisk.handle) dottedCalls crowdedDisk).tree := by
  obtain ⟨filed, -, apart, runs⟩ := documents_found_by_name configStore
  obtain ⟨written, listable⟩ := runs Unit dottedCalls crowdedDisk mirrors_configDirectories.distinct
  have valid : ∀ name ∈ [".toml", "...", "orders.", "orders.toml.tmp"], ValidName name := by decide
  have replies : (history (configStore.handle FaultyDisk.handle) dottedCalls crowdedDisk).map
      (fun step => step.2.call.written? step.2.reply) =
      [none, some (.resolverMap { name := ".toml", version := 1 }),
        some (.resolverMap { name := ".toml.tmp", version := 1 })] := rfl
  have second : some (StoredItem.resolverMap { name := ".toml", version := 1 }) ∈
      (history (configStore.handle FaultyDisk.handle) dottedCalls crowdedDisk).map
        (fun step => step.2.call.written? step.2.reply) := by
    rw [replies]
    exact .tail _ (.head _)
  obtain ⟨step, member, own⟩ := List.mem_map.1 second
  refine ⟨fun name listed => ⟨valid name listed, filed _ name (valid name listed)⟩,
    apart _ _ _ _ (by decide), ⟨step, member, own, (written _ _ _ member own).1⟩, listable ?_⟩
  exact ⟨mirrors_configDirectories.schemas.listed_files.imp fun _ => And.left,
    mirrors_configDirectories.maps.listed_files.imp fun _ => And.left⟩

end FileStore

end GatewayControl
