import GatewayControl.Proofs.Listings

/-!
Writes on a disk whose operations may fail. A write that fails at any of its operations may leave a
temporary file behind, but nobody who reads the store sees a difference; a write that succeeds
changes the document of its object and nothing else.
-/

namespace GatewayControl

/-- How an operation on files goes wrong: it is refused, or a file is written, but not as it should
be. -/
inductive Hitch
  | refused (fault : DiskFault)
  | cut (fault : DiskFault) (left : { entry : DiskEntry // entry ≠ .directory })

def Hitch.fault : Hitch → DiskFault
  | refused fault | cut fault _ => fault

structure FaultyDisk where
  tree : Disk
  hitches : List (Option Hitch) := []

namespace FaultyDisk

def damaged (tree : Disk) : DiskCall → Hitch → Disk
  | .writeText path _, .cut _ left => (tree.changed (tree.writeFile (Disk.resolve path) left)).2
  | _, _ => tree

def handle : DiskHandler FaultyDisk := fun call disk =>
  match disk.hitches.head?.join with
  | some hitch => (.error hitch.fault, ⟨damaged disk.tree call hitch, disk.hitches.tail⟩)
  | none => ((Disk.handle call disk.tree).1, ⟨(Disk.handle call disk.tree).2, disk.hitches.tail⟩)

theorem handle_ok {call : DiskCall} {disk : FaultyDisk} {answer : call.Answer}
    (answered : (handle call disk).1 = .ok answer) :
    Disk.handle call disk.tree = (.ok answer, (handle call disk).2.tree) := by
  rw [handle] at answered ⊢
  cases next : disk.hitches.head?.join with
  | some hitch =>
      rw [next] at answered
      cases answered
  | none =>
      rw [next] at answered
      exact Prod.ext answered rfl

theorem tree_damaged (tree : Disk) (call : DiskCall) (hitch : Hitch) :
    damaged tree call hitch = tree ∨
      ∃ path content left, call = .writeText path content ∧
        tree.writeFile (Disk.resolve path) left = .ok (damaged tree call hitch) := by
  cases call with
  | writeText path content =>
      cases hitch with
      | refused fault => exact .inl rfl
      | cut fault left =>
          rw [damaged]
          cases wrote : tree.writeFile (Disk.resolve path) left with
          | error fault => exact .inl rfl
          | ok after => exact .inr ⟨path, content, left, rfl, wrote⟩
  | readText | rename | createDirectories | isThere | list => exact .inl rfl

theorem handle_error {call : DiskCall} {disk : FaultyDisk} {fault : DiskFault}
    (failed : (handle call disk).1 = .error fault) :
    (handle call disk).2.tree = disk.tree ∨
      ∃ path content left, call = .writeText path content ∧
        disk.tree.writeFile (Disk.resolve path) left = .ok (handle call disk).2.tree := by
  rw [handle] at failed ⊢
  cases next : disk.hitches.head?.join with
  | some hitch => exact tree_damaged disk.tree call hitch
  | none =>
      rw [next] at failed
      exact .inl (Disk.kept_of_error failed)

theorem kept_of_error {call : DiskCall} {disk : FaultyDisk} {fault : DiskFault}
    (failed : (handle call disk).1 = .error fault)
    (aside : ∀ path content, call ≠ .writeText path content) :
    (handle call disk).2.tree = disk.tree := by
  rcases handle_error failed with same | ⟨path, content, left, own, -⟩
  · exact same
  · exact absurd own (aside path content)

end FaultyDisk

namespace FileStore

open StoredObject

structure ReadsAlike (store : FileStore) (disk after : Disk) : Prop where
  gets : ∀ (α : Type) [StoredObject α] (objectName : String),
    store.got (α := α) after objectName = store.got disk objectName
  lists : ∀ (α : Type) [StoredObject α], store.listed (α := α) after = store.listed disk

structure Places {α : Type} [StoredObject α] (store : FileStore) (disk after : Disk) (object : α) :
    Prop where
  own : store.got after (name object) = .ok object
  gets : ∀ (β : Type) [StoredObject β] (objectName : String),
    ¬(kind β = kind α ∧ objectName = name object) →
    store.got (α := β) after objectName = store.got disk objectName
  lists : ∀ (β : Type) [StoredObject β], kind β ≠ kind α →
    store.listed (α := β) after = store.listed disk
  others : (store.listed (α := α) after).map (List.filter fun other => name other ≠ name object) =
    (store.listed disk).map (List.filter fun other => name other ≠ name object)
  listed : ∀ objects, store.listed after = .ok objects →
    object ∈ objects ∧ ∀ other ∈ objects, name other = name object → other = object

/-- Whether a call that may write the object of a name is answered with an error and changes nothing
for any reader, or is answered with the object and changes nothing else. -/
def Whole {α : Type} [StoredObject α] (store : FileStore) (disk : Disk) (objectName : String) :
    Except StorageFault α × FaultyDisk → Prop
  | (.error _, after) => store.ReadsAlike disk after.tree
  | (.ok object, after) => name object = objectName ∧ store.Places disk after.tree object

theorem ReadsAlike.refl (store : FileStore) (disk : Disk) : store.ReadsAlike disk disk :=
  ⟨fun _ _ _ => rfl, fun _ _ => rfl⟩

/-- What stands where a document is written first is read by nobody. -/
theorem readsAlike_temporary (store : FileStore) (disk : Disk) (kind : ObjectKind) (objectName : String)
    (entry : DiskEntry) :
    store.ReadsAlike disk (disk.put (store.way kind ++ [objectName ++ ".toml.tmp"]) entry) := by
  have same : store.SameBut (fun other file => other = kind ∧ file = objectName ++ ".toml.tmp") disk
      (disk.put (store.way kind ++ [objectName ++ ".toml.tmp"]) entry) := .put disk entry ⟨rfl, rfl⟩
  constructor
  · intro α _ another
    exact same.got fun changes => documentFile_ne_temporary objectName another changes.2
  · intro α _
    refine same.listed fun file changes => ?_
    rw [changes.2]
    exact nameExtension_temporary objectName

section

variable {α : Type} [StoredObject α]

theorem places_withDocument [Documented α] {store : FileStore} {disk : Disk} {object : α}
    {content : String} (valid : nameFault (name object) = none)
    (rendered : renderDocument object = .ok content)
    (reached : Disk.wayFault disk [] (store.way (kind α)) = none)
    (short : (name object ++ ".toml.tmp").utf8ByteSize ≤ Disk.maxNameLength)
    (readable : store.Readable α disk (name object)) :
    store.Places disk (store.withDocument disk (kind α) (name object) content) object := by
  have nonempty := name_ne_empty valid
  have same := sameBut_withDocument store disk (kind α) (name object) content
  have read : (store.withDocument disk (kind α) (name object) content).readText
      (Disk.resolve (store.path (kind α) (name object))) = .ok content :=
    readText_withDocument reached short
  have parsed : parseDocument (store.path (kind α) (name object)) content = .ok object :=
    parseDocument_renderDocument (stem_path store _ nonempty) rendered
  constructor
  · simp only [got_eq, path?, valid, read, parsed]
  · intro β _ another different
    exact same.got (not_ownFile_of_ne different)
  · intro β _ different
    exact same.listed fun file own => absurd own.1 different
  · exact same.filter_listed nonempty (fun file own => eq_document_of_ownFile own) readable
      (readable_of_readText read parsed)
  · intro objects given
    have stored := (stored?_of_parse nonempty read parsed).1
    refine ⟨mem_listed nonempty given read parsed, fun other member named => ?_⟩
    have listed := stored?_of_listed given member
    rw [named, stored] at listed
    exact (Option.some.inj listed).symm

theorem whole_of_kept {store : FileStore} {disk : Disk} {objectName : String} {fault : StorageFault}
    {after : FaultyDisk} (same : after.tree = disk) :
    store.Whole (α := α) disk objectName (.error fault, after) := by
  subst same
  exact .refl store after.tree

theorem readsAlike_of_wrote {store : FileStore} {disk written : Disk} {objectName : String}
    {entry : DiskEntry} {kind : ObjectKind} (nonempty : objectName ≠ "")
    (wrote : disk.writeFile (Disk.resolve (temporaryPath (store.path kind objectName))) entry =
      .ok written) : store.ReadsAlike disk written := by
  rw [resolve_temporaryPath store kind nonempty] at wrote
  obtain ⟨-, -, -, rfl⟩ := Disk.writeFile_eq_ok_iff.1 wrote
  exact readsAlike_temporary store disk kind objectName entry

theorem whole_write [Documented α] {store : FileStore} {object : α} {objectName : String}
    (named : name object = objectName) (valid : nameFault objectName = none) {disk : FaultyDisk}
    (readable : store.Readable α disk.tree objectName) :
    store.Whole disk.tree objectName
      ((write (store.path (kind α) objectName) object).run FaultyDisk.handle disk) := by
  subst named
  have nonempty := name_ne_empty valid
  rw [write]
  cases rendered : renderDocument object with
  | error fault => exact .refl store disk.tree
  | ok content =>
      simp only [Program.run_call]
      cases first : (FaultyDisk.handle
          (.writeText (temporaryPath (store.path (kind α) (name object))) content) disk).1 with
      | error fault =>
          simp only [Program.run_done]
          rcases FaultyDisk.handle_error first with same | ⟨path, text, left, own, wrote⟩
          · exact whole_of_kept same
          · cases own
            exact readsAlike_of_wrote nonempty wrote
      | ok _ =>
          have wrote := Disk.eq_ok_of_changed (FaultyDisk.handle_ok first)
          simp only [Program.run_call]
          generalize (FaultyDisk.handle
            (.writeText (temporaryPath (store.path (kind α) (name object))) content) disk).2 = written
            at wrote ⊢
          cases second : (FaultyDisk.handle (.rename
              (temporaryPath (store.path (kind α) (name object)))
              (store.path (kind α) (name object))) written).1 with
          | error fault =>
              simp only [Program.run_done]
              have same := FaultyDisk.kept_of_error second (by simp)
              simp only [Whole, same]
              exact readsAlike_of_wrote nonempty wrote
          | ok _ =>
              have moved := Disk.eq_ok_of_changed (FaultyDisk.handle_ok second)
              have same := Disk.eq_replaced_of_rename wrote moved
              rw [resolve_temporaryPath store _ nonempty] at wrote same
              rw [resolve_path] at same
              obtain ⟨reached, short, -⟩ := Disk.writeFile_eq_ok_iff.1 wrote
              simp only [Program.run_done, Whole, same]
              exact ⟨trivial, places_withDocument valid rendered reached short readable⟩

theorem run_read_faulty (store : FileStore) (objectName : String) (disk : FaultyDisk) :
    ((store.read (α := α) objectName).run FaultyDisk.handle disk).2.tree = disk.tree ∧
      ∀ object : α, ((store.read objectName).run FaultyDisk.handle disk).1 = .ok object →
        nameFault objectName = none ∧ store.got disk.tree objectName = .ok object ∧
          store.Readable α disk.tree objectName := by
  rw [read, path?]
  cases valid : nameFault objectName with
  | some fault =>
      refine ⟨rfl, fun object parsed => ?_⟩
      cases parsed
  | none =>
      simp only [Program.run_call]
      cases first : (FaultyDisk.handle (.readText (store.path (kind α) objectName)) disk).1 with
      | error fault =>
          have same := FaultyDisk.kept_of_error first (by simp)
          refine ⟨by cases fault <;> exact same, fun object parsed => ?_⟩
          cases fault <;> cases parsed
      | ok content =>
          have handled := FaultyDisk.handle_ok first
          have read : disk.tree.readText (Disk.resolve (store.path (kind α) objectName)) =
              .ok content := congrArg Prod.fst handled
          refine ⟨(congrArg Prod.snd handled).symm, fun object parsed => ?_⟩
          refine ⟨trivial, ?_, readable_of_readText read parsed⟩
          simp only [got_eq, path?, valid, read]
          exact parsed

theorem whole_update [Documented α] (store : FileStore) (object : α) (disk : FaultyDisk) :
    store.Whole disk.tree (name object) ((store.update object).run FaultyDisk.handle disk) := by
  obtain ⟨same, found⟩ := run_read_faulty (α := α) store (name object) disk
  rw [update, Program.run_bind]
  cases given : ((store.read (α := α) (name object)).run FaultyDisk.handle disk).1 with
  | error fault => exact whole_of_kept same
  | ok current =>
      obtain ⟨valid, -, readable⟩ := found current given
      by_cases versions : version object = version current
      · rw [← same] at readable ⊢
        simp only [versions, if_true]
        exact whole_write (name_withVersion _ _) valid readable
      · simp only [versions, if_false]
        exact whole_of_kept same

theorem whole_create [Documented α] (store : FileStore) (object : α) (disk : FaultyDisk) :
    store.Whole disk.tree (name object) ((store.create object).run FaultyDisk.handle disk) := by
  rw [create, path?]
  cases valid : nameFault (name object) with
  | some fault => exact .refl store disk.tree
  | none =>
      simp only [Program.run_call]
      cases first : (FaultyDisk.handle (.isThere (store.path (kind α) (name object))) disk).1 with
      | error fault =>
          exact whole_of_kept (FaultyDisk.kept_of_error first (by simp))
      | ok present =>
          have handled := FaultyDisk.handle_ok first
          have there : disk.tree.isThere (Disk.resolve (store.path (kind α) (name object))) =
              .ok present := congrArg Prod.fst handled
          have same : (FaultyDisk.handle (.isThere (store.path (kind α) (name object))) disk).2.tree =
              disk.tree := (congrArg Prod.snd handled).symm
          cases present with
          | true => exact whole_of_kept same
          | false =>
              have missing := Disk.isThere_eq_false_iff.1 there
              rw [← same] at missing ⊢
              exact whole_write (name_withVersion _ _) valid (readable_of_missing missing)

/-! The largest version. -/

theorem write_of_large [Documented α] {path : Path} {object : α}
    (large : Toml.maxInteger < version object) :
    write path object = .done (.error (.serialization "out-of-range value for u64 type")) := by
  rw [write, renderDocument_of_large large]

theorem large_nextVersion {number : Nat} (limit : number = Toml.maxInteger) :
    Toml.maxInteger < nextVersion number := by
  rw [limit]
  decide

theorem run_update_of_limit [Documented α] {store : FileStore} {object current : α} {disk : Disk}
    (stored : store.got disk (name object) = .ok current) (limit : version current = Toml.maxInteger) :
    (store.update object).run Disk.handle disk =
      (.error (if version object = Toml.maxInteger then .serialization "out-of-range value for u64 type"
        else .conflict (kind α) (name object) (version object) Toml.maxInteger), disk) := by
  rw [update, Program.run_bind, run_read, stored]
  simp only [limit]
  split
  · rename_i same
    rw [write_of_large (by rw [version_withVersion]; exact large_nextVersion same)]
    rfl
  · rfl

/-- However a disk fails, an object of the largest version is not updated. -/
theorem update_of_limit [Documented α] {store : FileStore} {object current : α} {disk : FaultyDisk}
    (stored : store.got disk.tree (name object) = .ok current)
    (limit : version current = Toml.maxInteger) :
    ∃ fault, ((store.update object).run FaultyDisk.handle disk).1 = .error fault ∧
      ((store.update object).run FaultyDisk.handle disk).2.tree = disk.tree := by
  obtain ⟨same, found⟩ := run_read_faulty (α := α) store (name object) disk
  rw [update, Program.run_bind]
  cases given : ((store.read (α := α) (name object)).run FaultyDisk.handle disk).1 with
  | error fault => exact ⟨fault, rfl, same⟩
  | ok other =>
      obtain ⟨-, own, -⟩ := found other given
      cases own.symm.trans stored
      by_cases versions : version object = version current
      · simp only [versions, if_true]
        rw [write_of_large (by rw [version_withVersion]; exact large_nextVersion limit)]
        exact ⟨_, rfl, same⟩
      · simp only [versions, if_false]
        exact ⟨_, rfl, same⟩

end

/-- Writes are all or nothing, whatever is on the disk and whatever fails. A call that writes either
returns an error and every reader is given what it was given before, or returns the object that is now
in its place, with all other objects as they were. What a write may leave beside the documents is not
read, and stands on the path of no object. An object of the largest version cannot be updated. -/
theorem writes_all_or_nothing (store : FileStore) (disk : FaultyDisk) :
    (∀ schema, store.Whole disk.tree schema.name
      (store.handle FaultyDisk.handle (.updateSchema schema) disk)) ∧
    (∀ map, store.Whole disk.tree map.name
      (store.handle FaultyDisk.handle (.createMap map) disk)) ∧
    (∀ map, store.Whole disk.tree map.name
      (store.handle FaultyDisk.handle (.updateMap map) disk)) ∧
    (∀ kind objectName, ValidName objectName →
      (∀ entry, store.ReadsAlike disk.tree
        (disk.tree.put (Disk.resolve (temporaryPath (store.path kind objectName))) entry)) ∧
      ∀ other another, Disk.resolve (temporaryPath (store.path kind objectName)) ≠
        Disk.resolve (store.path other another)) ∧
    (∀ schema current : Schema, store.got disk.tree schema.name = .ok current →
      current.version = Toml.maxInteger →
      store.handle Disk.handle (.updateSchema schema) disk.tree =
        (.error (if schema.version = Toml.maxInteger then
            .serialization "out-of-range value for u64 type"
          else .conflict .schema schema.name schema.version Toml.maxInteger), disk.tree) ∧
      (∃ fault, (store.handle FaultyDisk.handle (.updateSchema schema) disk).1 = .error fault ∧
        (store.handle FaultyDisk.handle (.updateSchema schema) disk).2.tree = disk.tree) ∧
      current.version + 1 < UInt64.size) ∧
    ∀ map current : ResolverMap, store.got disk.tree map.name = .ok current →
      current.version = Toml.maxInteger →
      store.handle Disk.handle (.updateMap map) disk.tree =
        (.error (if map.version = Toml.maxInteger then
            .serialization "out-of-range value for u64 type"
          else .conflict .resolverMap map.name map.version Toml.maxInteger), disk.tree) ∧
      (∃ fault, (store.handle FaultyDisk.handle (.updateMap map) disk).1 = .error fault ∧
        (store.handle FaultyDisk.handle (.updateMap map) disk).2.tree = disk.tree) ∧
      current.version + 1 < UInt64.size := by
  refine ⟨fun schema => whole_update store schema disk, fun map => whole_create store map disk,
    fun map => whole_update store map disk, ?_, ?_, ?_⟩
  · intro kind objectName valid
    have nonempty := name_ne_empty valid
    rw [resolve_temporaryPath store kind nonempty]
    constructor
    · intro entry
      exact readsAlike_temporary store disk.tree kind objectName entry
    · intro other another
      rw [resolve_path]
      exact (path_ne_temporaryPath store kind other objectName another).symm
  · intro schema current stored limit
    have below : current.version + 1 < UInt64.size := by rw [limit]; decide
    exact ⟨run_update_of_limit stored limit, update_of_limit stored limit, below⟩
  · intro map current stored limit
    have below : current.version + 1 < UInt64.size := by rw [limit]; decide
    exact ⟨run_update_of_limit stored limit, update_of_limit stored limit, below⟩

end FileStore

end GatewayControl
