import GatewayControl.Proofs.Files

/-!
What is read of a store in a directory follows its documents alone. Files that are no documents do
not count, and when the document of one object changes, all else is read as before.
-/

namespace GatewayControl.FileStore

open StoredObject

/-! The documents in a list of file names. -/

theorem pairwise_documentNames (names : List String) :
    (documentNames names).Pairwise fun left right => left ≤ right := by
  have sorted : (documentNames names).Pairwise fun left right => decide (left ≤ right) = true := by
    apply List.pairwise_mergeSort
    · intro first second third
      simpa using String.le_trans
    · intro left right
      simpa using String.le_total left right
  exact sorted.imp fun before => of_decide_eq_true before

theorem documentNames_perm (names : List String) :
    (documentNames names).Perm
      (names.filter fun name => Path.nameExtension name = some documentExtension) :=
  List.mergeSort_perm _ _

theorem nodup_documentNames {names : List String} (distinct : names.Nodup) :
    (documentNames names).Nodup :=
  (documentNames_perm names).nodup_iff.2 (distinct.filter _)

theorem filter_documentNames (names : List String) (kept : String → Bool) :
    (documentNames names).filter kept = documentNames (names.filter kept) := by
  have members : ((documentNames names).filter kept).Perm (documentNames (names.filter kept)) := by
    refine ((documentNames_perm names).filter kept).trans ?_
    rw [List.filter_filter]
    refine List.Perm.trans ?_ (documentNames_perm _).symm
    rw [List.filter_filter]
    simp only [Bool.and_comm]
    exact .refl _
  exact members.eq_of_pairwise (fun _ _ _ _ => String.le_antisymm)
    ((pairwise_documentNames names).filter kept) (pairwise_documentNames _)

theorem documentNames_congr {names others : List String}
    (same : names.filter (fun name => Path.nameExtension name = some documentExtension) =
      others.filter fun name => Path.nameExtension name = some documentExtension) :
    documentNames names = documentNames others := by
  rw [documentNames, documentNames, same]

theorem splitName_temporary (name : String) :
    Path.splitName (name ++ ".toml.tmp") = some (name ++ ".toml", "tmp") := by
  have written : name ++ ".toml.tmp" = name ++ ".toml" ++ "." ++ "tmp" := by
    simp [← String.toList_inj]
  rw [written]
  exact Path.splitName_append (by simp) (by decide) (by decide)

theorem nameExtension_temporary (name : String) :
    Path.nameExtension (name ++ ".toml.tmp") ≠ some documentExtension := by
  rw [Path.nameExtension, splitName_temporary]
  exact (by decide : some "tmp" ≠ some documentExtension)

theorem nameExtension_document {name : String} (nonempty : name ≠ "") :
    Path.nameExtension (name ++ "." ++ documentExtension) = some documentExtension := by
  rw [Path.nameExtension, splitName_document nonempty]
  rfl

/-! Disks that differ by files of the store only. -/

/-- Whether a disk differs from an earlier one at most by the files of the store that are said to
change. -/
structure SameBut (store : FileStore) (changed : ObjectKind → String → Prop) (disk after : Disk) :
    Prop where
  above : ∀ kind, ∀ path : Path, path.length ≤ (store.way kind).length →
    after.entry? path = disk.entry? path
  files : ∀ kind file, ¬changed kind file →
    after.entry? (store.way kind ++ [file]) = disk.entry? (store.way kind ++ [file])
  names : ∀ kind (kept : String → Bool), (∀ file, changed kind file → kept file = false) →
    (after.namesIn (store.way kind)).filter kept = (disk.namesIn (store.way kind)).filter kept

namespace SameBut

variable {store : FileStore} {changed : ObjectKind → String → Prop} {disk middle after : Disk}
  {kind : ObjectKind} {file : String}

theorem trans (one : store.SameBut changed disk middle) (two : store.SameBut changed middle after) :
    store.SameBut changed disk after := by
  constructor
  · intro kind path short
    exact (two.above kind path short).trans (one.above kind path short)
  · intro kind file kept
    exact (two.files kind file kept).trans (one.files kind file kept)
  · intro kind kept dropped
    exact (two.names kind kept dropped).trans (one.names kind kept dropped)

theorem ne_of_unchanged {other : ObjectKind} {another : String} (changes : changed kind file)
    (kept : ¬changed other another) : store.way other ++ [another] ≠ store.way kind ++ [file] := by
  intro same
  obtain ⟨ways, files⟩ := List.append_inj' same rfl
  cases way_inj ways
  cases files
  exact kept changes

theorem put (disk : Disk) (entry : DiskEntry) (changes : changed kind file) :
    store.SameBut changed disk (disk.put (store.way kind ++ [file]) entry) := by
  constructor
  · intro other path short
    rw [way_length store other kind] at short
    rw [Disk.entry?_put (by simp), if_neg (Disk.ne_concat_of_length short file)]
  · intro other another kept
    rw [Disk.entry?_put (by simp), if_neg (ne_of_unchanged changes kept)]
  · intro other kept dropped
    refine Disk.filter_namesIn_put disk entry fun same => ?_
    cases way_inj same
    exact dropped file changes

theorem erase (disk : Disk) (changes : changed kind file) :
    store.SameBut changed disk (disk.erase (store.way kind ++ [file])) := by
  constructor
  · intro other path short
    rw [way_length store other kind] at short
    rw [Disk.entry?_erase (by simp), if_neg (Disk.ne_concat_of_length short file)]
  · intro other another kept
    rw [Disk.entry?_erase (by simp), if_neg (ne_of_unchanged changes kept)]
  · intro other kept dropped
    refine Disk.filter_namesIn_erase disk fun same => ?_
    cases way_inj same
    exact dropped file changes

theorem replaced {temporary : String} (disk : Disk) (content : String)
    (aside : changed kind temporary) (changes : changed kind file) :
    store.SameBut changed disk
      (disk.replaced (store.way kind ++ [temporary]) (store.way kind ++ [file]) content) :=
  ((put disk _ aside).trans (erase _ aside)).trans (put _ _ changes)

theorem wayFault (same : store.SameBut changed disk after) (kind : ObjectKind) :
    Disk.wayFault after [] (store.way kind) = Disk.wayFault disk [] (store.way kind) :=
  Disk.wayFault_congr fun path short => same.above kind path (by simpa using short)

theorem look (same : store.SameBut changed disk after) (kind : ObjectKind) :
    after.look (store.way kind) = disk.look (store.way kind) :=
  Disk.look_congr fun path short => same.above kind path short

theorem readText {name : String} (same : store.SameBut changed disk after)
    (kept : ¬changed kind (name ++ "." ++ documentExtension)) :
    after.readText (Disk.resolve (store.path kind name)) =
      disk.readText (Disk.resolve (store.path kind name)) := by
  rw [resolve_path]
  exact Disk.readText_congr (same.wayFault kind) (same.files kind _ kept)

section

variable {α : Type} [StoredObject α] {objectName : String}

theorem got (same : store.SameBut changed disk after)
    (kept : ¬changed (StoredObject.kind α) (objectName ++ "." ++ documentExtension)) :
    store.got (α := α) after objectName = store.got disk objectName := by
  rw [got_eq, got_eq, path?]
  cases nameFault objectName with
  | some fault => rfl
  | none => simp only [same.readText kept]

theorem load (same : store.SameBut changed disk after)
    (kept : ¬changed (StoredObject.kind α) (objectName ++ "." ++ documentExtension)) :
    load (α := α) after (store.path (StoredObject.kind α) objectName) =
      FileStore.load disk (store.path (StoredObject.kind α) objectName) := by
  rw [FileStore.load, FileStore.load, same.readText kept]

theorem mapM_load (same : store.SameBut changed disk after) {files : List String}
    (documents : ∀ file ∈ files, Path.nameExtension file = some documentExtension ∧
      ¬changed (StoredObject.kind α) file) :
    (files.mapM fun file =>
        FileStore.load (α := α) after (store.directory (StoredObject.kind α) ++ [file])) =
      files.mapM fun file =>
        FileStore.load disk (store.directory (StoredObject.kind α) ++ [file]) := by
  refine mapM_congr fun file member => ?_
  obtain ⟨document, kept⟩ := documents file member
  obtain ⟨objectName, -, rfl⟩ := file_of_extension document
  exact same.load kept

theorem listed (same : store.SameBut changed disk after)
    (aside : ∀ file, changed (StoredObject.kind α) file →
      Path.nameExtension file ≠ some documentExtension) :
    store.listed (α := α) after = store.listed disk := by
  have names : documentNames (after.namesIn (store.way (StoredObject.kind α))) =
      documentNames (disk.namesIn (store.way (StoredObject.kind α))) :=
    documentNames_congr (same.names _ _ fun file changes => by simpa using aside file changes)
  rw [listed_eq, listed_eq, same.look, names]
  have documents : ∀ file ∈ documentNames (disk.namesIn (store.way (StoredObject.kind α))),
      Path.nameExtension file = some documentExtension ∧ ¬changed (StoredObject.kind α) file := by
    intro file member
    have document := (mem_documentNames.1 member).2
    exact ⟨document, fun changes => aside file changes document⟩
  rw [same.mapM_load documents]

end

end SameBut

/-! A document that is put in its place. -/

section

variable {store : FileStore} {disk : Disk} {kind : ObjectKind} {objectName content : String}

def OwnFile (kind : ObjectKind) (objectName : String) (other : ObjectKind) (file : String) : Prop :=
  other = kind ∧ (file = objectName ++ ".toml.tmp" ∨ file = objectName ++ "." ++ documentExtension)

/-- The disk with a document in the place of the one of its name, after what was written first was
renamed. -/
def withDocument (store : FileStore) (disk : Disk) (kind : ObjectKind) (objectName content : String) :
    Disk :=
  disk.replaced (store.way kind ++ [objectName ++ ".toml.tmp"])
    (store.way kind ++ [objectName ++ "." ++ documentExtension]) content

theorem sameBut_withDocument (store : FileStore) (disk : Disk) (kind : ObjectKind)
    (objectName content : String) :
    store.SameBut (OwnFile kind objectName) disk (store.withDocument disk kind objectName content) :=
  .replaced disk content ⟨rfl, .inl rfl⟩ ⟨rfl, .inr rfl⟩

theorem readText_withDocument (reached : Disk.wayFault disk [] (store.way kind) = none)
    (short : (objectName ++ ".toml.tmp").utf8ByteSize ≤ Disk.maxNameLength) :
    (store.withDocument disk kind objectName content).readText
      (Disk.resolve (store.path kind objectName)) = .ok content := by
  have smaller := documentFile_lt objectName
  rw [resolve_path]
  exact Disk.readText_replaced reached (by omega)

theorem mem_namesIn_withDocument {file : String}
    (listed : file ∈ (store.withDocument disk kind objectName content).namesIn (store.way kind)) :
    file = objectName ++ "." ++ documentExtension ∨
      ¬OwnFile kind objectName kind file ∧ file ∈ disk.namesIn (store.way kind) := by
  rw [Disk.mem_namesIn, withDocument, Disk.entry?_replaced (by simp) (by simp)] at listed
  simp only [List.append_cancel_left_eq, List.singleton_inj] at listed
  by_cases document : file = objectName ++ "." ++ documentExtension
  · exact .inl document
  · rw [if_neg document] at listed
    by_cases temporary : file = objectName ++ ".toml.tmp"
    · rw [if_pos temporary] at listed
      exact absurd rfl listed
    · rw [if_neg temporary] at listed
      refine .inr ⟨?_, Disk.mem_namesIn.2 listed⟩
      rintro ⟨-, same | same⟩
      · exact temporary same
      · exact document same

theorem not_ownFile_of_ne {other : ObjectKind} {another : String}
    (different : ¬(other = kind ∧ another = objectName)) :
    ¬OwnFile kind objectName other (another ++ "." ++ documentExtension) := by
  rintro ⟨sameKind, temporary | document⟩
  · exact documentFile_ne_temporary objectName another temporary
  · exact different ⟨sameKind, documentFile_inj document⟩

theorem eq_document_of_ownFile {other : ObjectKind} {file : String}
    (own : OwnFile kind objectName other file)
    (document : Path.nameExtension file = some documentExtension) :
    file = objectName ++ "." ++ documentExtension := by
  rcases own.2 with temporary | same
  · rw [temporary] at document
    exact absurd document (nameExtension_temporary objectName)
  · exact same

end

/-! A listing without one object. -/

section

variable {α : Type} [StoredObject α]

def Readable (α : Type) [StoredObject α] (store : FileStore) (disk : Disk) (objectName : String) : Prop :=
  disk.look (store.way (kind α)) = .ok .directory →
    objectName ++ "." ++ documentExtension ∈ disk.namesIn (store.way (kind α)) →
    ∃ object : α, load disk (store.path (kind α) objectName) = .ok object

theorem readable_of_readText {store : FileStore} {disk : Disk} {objectName content : String} {object : α}
    (read : disk.readText (Disk.resolve (store.path (kind α) objectName)) = .ok content)
    (parsed : parseDocument (store.path (kind α) objectName) content = .ok object) :
    store.Readable α disk objectName := by
  intro _ _
  exact ⟨object, by rw [load, read]; exact parsed⟩

theorem readable_of_missing {store : FileStore} {disk : Disk} {objectName : String}
    (missing : disk.look (Disk.resolve (store.path (kind α) objectName)) = .error .notFound) :
    store.Readable α disk objectName := by
  intro reached listed
  rw [resolve_path] at missing
  have absent := Disk.entry?_of_missing (Disk.look_eq_directory_iff.1 reached) missing
  exact absurd absent (Disk.mem_namesIn.1 listed)

theorem filter_listed {store : FileStore} {disk : Disk} {objectName : String} (nonempty : objectName ≠ "")
    (readable : store.Readable α disk objectName) :
    (store.listed (α := α) disk).map (List.filter fun object => name object ≠ objectName) =
      match disk.look (store.way (kind α)) with
      | .error fault => .error (ioFault fault)
      | .ok .directory =>
        ((documentNames (disk.namesIn (store.way (kind α)))).filter fun file =>
            file ≠ objectName ++ "." ++ documentExtension).mapM fun file =>
          load disk (store.directory (kind α) ++ [file])
      | .ok _ => .error (ioFault .notDirectory) := by
  rw [listed_eq]
  cases reached : disk.look (store.way (kind α)) with
  | error fault => rfl
  | ok entry =>
      cases entry with
      | text | bytes => rfl
      | directory =>
          have target : objectName ++ "." ++ documentExtension ∈
              documentNames (disk.namesIn (store.way (kind α))) →
              ∃ object : α, load disk (store.path (kind α) objectName) = .ok object ∧
                decide (name object = objectName) = true := by
            intro member
            obtain ⟨object, loaded⟩ := readable reached (mem_documentNames.1 member).1
            exact ⟨object, loaded, decide_eq_true (stored?_of_load nonempty loaded).2⟩
          have others : ∀ file ∈ documentNames (disk.namesIn (store.way (kind α))),
              file ≠ objectName ++ "." ++ documentExtension → ∀ object : α,
                load disk (store.directory (kind α) ++ [file]) = .ok object →
                decide (name object = objectName) = false := by
            intro file member different object loaded
            obtain ⟨other, otherNonempty, rfl⟩ := file_of_extension (mem_documentNames.1 member).2
            obtain ⟨-, named⟩ := stored?_of_load otherNonempty loaded
            refine decide_eq_false fun same => different ?_
            rw [← named, same]
          have filtered := mapM_filter target others
          simp only [← decide_not] at filtered
          exact filtered

theorem mem_listed {store : FileStore} {disk : Disk} {objectName content : String} {object : α}
    {objects : List α} (nonempty : objectName ≠ "") (given : store.listed disk = .ok objects)
    (read : disk.readText (Disk.resolve (store.path (kind α) objectName)) = .ok content)
    (parsed : parseDocument (store.path (kind α) objectName) content = .ok object) :
    object ∈ objects := by
  have there : disk.entry? (store.way (kind α) ++ [objectName ++ "." ++ documentExtension]) ≠ none := by
    rw [resolve_path] at read
    rw [(Disk.readText_eq_ok_iff.1 read).2.2]
    exact nofun
  have document : objectName ++ "." ++ documentExtension ∈
      documentNames (disk.namesIn (store.way (kind α))) :=
    mem_documentNames.2 ⟨Disk.mem_namesIn.2 there, nameExtension_document nonempty⟩
  have loaded : load disk (store.path (kind α) objectName) = .ok object := by
    rw [load, read]
    exact parsed
  rw [listed_eq] at given
  split at given
  · cases given
  · obtain ⟨result, member, own⟩ := (mapM_eq_ok given).1 _ document
    cases own.symm.trans loaded
    exact member
  · cases given

theorem files_of_listed {store : FileStore} {disk : Disk} {objects : List α}
    (given : store.listed disk = .ok objects) :
    objects.map (fun object => name object ++ "." ++ documentExtension) =
      documentNames (disk.namesIn (store.way (kind α))) := by
  rw [listed_eq] at given
  split at given
  · cases given
  · refine map_eq_of_mapM (fun file member object loaded => ?_) given
    obtain ⟨objectName, nonempty, rfl⟩ := file_of_extension (mem_documentNames.1 member).2
    rw [(stored?_of_load nonempty loaded).2]
  · cases given

theorem nodup_names_of_listed {store : FileStore} {disk : Disk} (distinct : disk.Distinct)
    {objects : List α} (given : store.listed disk = .ok objects) : (objects.map name).Nodup := by
  have files := nodup_documentNames (distinct.nodup_namesIn (store.way (kind α)))
  rw [← files_of_listed given] at files
  refine List.pairwise_map.2 ((List.pairwise_map.1 files).imp fun different same => ?_)
  exact different (by rw [same])

theorem SameBut.filter_listed {store : FileStore} {changed : ObjectKind → String → Prop}
    {disk after : Disk} {objectName : String} (same : store.SameBut changed disk after)
    (nonempty : objectName ≠ "")
    (only : ∀ file, changed (StoredObject.kind α) file →
      Path.nameExtension file = some documentExtension → file = objectName ++ "." ++ documentExtension)
    (before : store.Readable α disk objectName) (afterwards : store.Readable α after objectName) :
    (store.listed (α := α) after).map (List.filter fun object => name object ≠ objectName) =
      (store.listed disk).map (List.filter fun object => name object ≠ objectName) := by
  rw [FileStore.filter_listed nonempty afterwards, FileStore.filter_listed nonempty before, same.look]
  have names : ((documentNames (after.namesIn (store.way (StoredObject.kind α)))).filter fun file =>
        file ≠ objectName ++ "." ++ documentExtension) =
      (documentNames (disk.namesIn (store.way (StoredObject.kind α)))).filter fun file =>
        file ≠ objectName ++ "." ++ documentExtension := by
    rw [filter_documentNames, filter_documentNames]
    refine documentNames_congr ?_
    rw [List.filter_filter, List.filter_filter]
    refine same.names _ _ fun file changes => ?_
    have excluded := only file changes
    simpa using excluded
  have documents : ∀ file ∈ (documentNames (disk.namesIn (store.way (StoredObject.kind α)))).filter
      fun file => file ≠ objectName ++ "." ++ documentExtension,
      Path.nameExtension file = some documentExtension ∧ ¬changed (StoredObject.kind α) file := by
    intro file member
    obtain ⟨listed, different⟩ := List.mem_filter.1 member
    have document := (mem_documentNames.1 listed).2
    exact ⟨document, fun changes => of_decide_eq_true different (only file changes document)⟩
  rw [names, same.mapM_load documents]

end

end GatewayControl.FileStore
