import GatewayControl.Proofs.Backends
import GatewayControl.Proofs.Settling
import Mathlib.Data.List.Pairwise

/-!
The orders of listings. A store in memory lists objects by their names, a store in a directory by the
names of their files, which go on with an extension. The two orders differ where a name is another one
that goes on with a character before the dot, and only there do snapshots depend on the backend.
-/

namespace GatewayControl

/-! Names and files. -/

def documentFile (name : String) : String := name ++ "." ++ FileStore.documentExtension

/-- Whether the file of a name that goes on from another name always comes after that one's file. -/
def FilesFollow (names : List String) : Prop :=
  ∀ name ∈ names, ∀ suffix, suffix ≠ "" → name ++ suffix ∈ names → ".toml" < suffix ++ ".toml"

theorem lt_append_or_prefix {left right : List Char} (less : left < right) :
    (∃ suffix, suffix ≠ [] ∧ right = left ++ suffix) ∨ ∀ one two, left ++ one < right ++ two := by
  induction less with
  | nil => exact .inl ⟨_, List.cons_ne_nil _ _, rfl⟩
  | rel before => exact .inr fun one two => .rel before
  | cons rest ih =>
      rcases ih with ⟨suffix, nonempty, rfl⟩ | differ
      · exact .inl ⟨suffix, nonempty, rfl⟩
      · exact .inr fun one two => .cons (differ one two)

theorem append_lt_append_iff {shared left right : List Char} :
    shared ++ left < shared ++ right ↔ left < right := by
  refine ⟨?_, List.append_left_lt⟩
  induction shared with
  | nil => exact id
  | cons head shared ih =>
      intro less
      exact ih (by simpa using less)

theorem documentFile_lt_iff {name suffix : String} :
    documentFile name < documentFile (name ++ suffix) ↔ ".toml" < suffix ++ ".toml" := by
  have ending : "." ++ FileStore.documentExtension = ".toml" := by decide
  simp only [documentFile, String.append_assoc, ending, String.lt_iff, String.toList_append]
  exact append_lt_append_iff

theorem documentFile_lt_of_follow {names : List String} (follow : FilesFollow names) {left right : String}
    (leftMember : left ∈ names) (rightMember : right ∈ names) (less : left < right) :
    documentFile left < documentFile right := by
  rcases lt_append_or_prefix (String.lt_iff.1 less) with ⟨suffix, nonempty, whole⟩ | differ
  · obtain rfl : right = left ++ String.ofList suffix := by
      rw [← String.toList_inj, whole, String.toList_append, String.toList_ofList]
    refine documentFile_lt_iff.2 (follow left leftMember _ ?_ rightMember)
    intro empty
    exact nonempty (by rw [← String.toList_ofList (l := suffix), empty]; rfl)
  · simp only [documentFile, String.append_assoc, String.lt_iff, String.toList_append]
    exact differ _ _

theorem filesFollow_iff {names : List String}
    (ascending : names.Pairwise fun left right => left < right) :
    FilesFollow names ↔ names.Pairwise fun left right => documentFile left < documentFile right := by
  constructor
  · intro follow
    refine ascending.imp_of_mem ?_
    intro left right leftMember rightMember less
    exact documentFile_lt_of_follow follow leftMember rightMember less
  · intro files name member suffix nonempty longer
    refine documentFile_lt_iff.1 (?_ : documentFile name < documentFile (name ++ suffix))
    have goesOn : name < name ++ suffix := by
      rw [String.lt_iff, String.toList_append]
      have whole : name.toList ++ [] < name.toList ++ suffix.toList := List.append_left_lt (by
        cases rest : suffix.toList with
        | nil => exact absurd (String.toList_eq_nil_iff.1 rest) nonempty
        | cons head tail => exact List.nil_lt_cons head tail)
      rwa [List.append_nil] at whole
    -- The two names may stand in either order in the list, so what is kept of a pair is symmetric.
    let agree := fun left right => (left < right → documentFile left < documentFile right) ∧
      (right < left → documentFile right < documentFile left)
    have symmetric : Std.Symm agree := ⟨fun _ _ both => both.symm⟩
    have pairs : names.Pairwise agree := by
      refine (ascending.and files).imp ?_
      intro left right ⟨less, before⟩
      exact ⟨fun _ => before, fun greater => absurd (String.lt_trans less greater) (String.lt_irrefl _)⟩
    have different : name ≠ name ++ suffix := by
      intro same
      rw [← same] at goesOn
      exact String.lt_irrefl name goesOn
    exact (pairs.forall member longer different).1 goesOn

/-! Listings. -/

namespace FileStore

open StoredObject

variable {store : FileStore} {disk : Disk}

/-- A directory lists the objects of the catalog by their files, which is the order of the catalog
exactly if the files follow. -/
theorem Holds.listed_order {α : Type} [StoredObject α] {catalog : Catalog α}
    (holds : store.Holds disk catalog) (distinct : disk.Distinct) :
    ∃ objects : List α, store.listed disk = .ok objects ∧ objects.Perm catalog.values ∧
      (objects.map fun object => documentFile (name object)).Pairwise (fun left right => left < right) ∧
      (objects = catalog.values ↔ FilesFollow (catalog.values.map name)) := by
  obtain ⟨objects, given, files⟩ := holds.listed_files
  obtain ⟨others, again, permuted, -⟩ := holds.listsOnce distinct
  cases given.symm.trans again
  have sorted : (objects.map fun object => documentFile (name object)).Pairwise
      (fun left right => left < right) := by
    have nodup := nodup_documentNames (distinct.nodup_namesIn (store.way (kind α)))
    have strict := (pairwise_documentNames (disk.namesIn (store.way (kind α)))).and nodup
    rw [← files] at strict
    exact strict.imp fun both => Std.lt_of_le_of_ne both.1 both.2
  refine ⟨objects, given, permuted, sorted, ?_⟩
  rw [filesFollow_iff catalog.ascending_names, List.pairwise_map]
  constructor
  · rintro rfl
    exact List.pairwise_map.1 sorted
  · intro ascending
    refine permuted.eq_of_pairwise ?_ (List.pairwise_map.1 sorted) ascending
    intro left right _ _ less greater
    exact absurd (String.lt_trans less greater) (String.lt_irrefl _)

end FileStore

namespace Gateway

theorem snapshot_of_files {gateway : Gateway} {store : FileStore} {schemas : List Schema}
    {maps : List ResolverMap} (files : gateway.backend = .files store)
    (schemasListed : store.listed gateway.disk = .ok schemas)
    (mapsListed : store.listed gateway.disk = .ok maps) :
    gateway.snapshot = .ok ⟨schemas, maps⟩ := by
  obtain ⟨backend, proxy, operator, disk, table, metrics, reports⟩ := gateway
  obtain rfl : backend = .files store := files
  have listSchemas := FileStore.run_list (α := Schema) store disk
  have listMaps := FileStore.run_list (α := ResolverMap) store disk
  rw [schemasListed] at listSchemas
  rw [mapsListed] at listMaps
  simp only [snapshot, readSnapshot, readMaps, Program.run_call, handleStore, onDisk,
    FileStore.answer, listSchemas, listMaps, Program.run_done]

theorem snapshot_of_memory {gateway : Gateway} {store : MemoryStore}
    (memory : gateway.backend = .memory store) : gateway.snapshot = .ok store.snapshot := by
  simp only [snapshot, readSnapshot, readMaps, Program.run_call, handleStore, memory]
  rfl

end Gateway

end GatewayControl
