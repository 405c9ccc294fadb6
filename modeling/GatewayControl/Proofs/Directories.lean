import GatewayControl.Proofs.Disk

/-!
Directories of a disk. The names in a directory are those of the entries in it, so a change of one
file changes at most that name, and a directory can be listed if and only if it is reached.
-/

namespace GatewayControl.Disk

theorem nameIn_eq_some_iff {directory path : Path} {name : String} :
    nameIn directory path = some name ↔ path = directory ++ [name] := by
  rw [nameIn]
  rcases List.eq_nil_or_concat path with rfl | ⟨way, last, rfl⟩
  · simp
  · simp only [List.concat_eq_append, List.getLast?_concat, List.dropLast_concat]
    split
    · rename_i same
      subst same
      simp
    · rename_i different
      simp [different]

def namesIn (disk : Disk) (directory : Path) : List String :=
  disk.entries.filterMap fun entry => nameIn directory entry.1

theorem list_eq (disk : Disk) (directory : Path) :
    disk.list directory =
      match disk.look directory with
      | .error fault => .error fault
      | .ok .directory => .ok (disk.namesIn directory)
      | .ok _ => .error .notDirectory := rfl

theorem find_eq_none_iff {path : Path} {entries : List (Path × DiskEntry)} :
    find path entries = none ↔ path ∉ entries.map Prod.fst := by
  induction entries with
  | nil => simp [find]
  | cons head entries ih =>
      obtain ⟨other, entry⟩ := head
      rw [find]
      by_cases same : path = other
      · simp [same]
      · simp [same, ih]

theorem mem_namesIn {disk : Disk} {directory : Path} {name : String} :
    name ∈ disk.namesIn directory ↔ disk.entry? (directory ++ [name]) ≠ none := by
  rw [ entry?, if_neg (by simp), Ne, find_eq_none_iff, Classical.not_not]
  simp [namesIn, nameIn_eq_some_iff]

theorem filterMap_putEntry {ν : Type} {path : Path} {entry : DiskEntry}
    {entries : List (Path × DiskEntry)} {seen : Path × DiskEntry → Option ν}
    (hidden : ∀ entry, seen (path, entry) = none) :
    (putEntry path entry entries).filterMap seen = entries.filterMap seen := by
  induction entries with
  | nil => simp [putEntry, hidden]
  | cons head entries ih =>
      obtain ⟨other, previous⟩ := head
      rw [putEntry]
      split
      · rename_i same
        subst same
        simp [hidden]
      · rw [List.filterMap_cons, List.filterMap_cons, ih]

theorem filterMap_filter_ne {ν : Type} {path : Path} {entries : List (Path × DiskEntry)}
    {seen : Path × DiskEntry → Option ν} (hidden : ∀ entry, seen (path, entry) = none) :
    (entries.filter fun entry => entry.1 ≠ path).filterMap seen = entries.filterMap seen := by
  induction entries with
  | nil => rfl
  | cons head entries ih =>
      obtain ⟨other, entry⟩ := head
      by_cases same : other = path
      · subst same
        rw [List.filter_cons_of_neg (by simp), ih, List.filterMap_cons_none (hidden entry)]
      · rw [List.filter_cons_of_pos (by simpa using same), List.filterMap_cons, List.filterMap_cons, ih]

section

variable {directory other : Path} {file : String} {kept : String → Bool}

theorem filter_namesIn (disk : Disk) (directory : Path) (kept : String → Bool) :
    (disk.namesIn directory).filter kept =
      disk.entries.filterMap fun entry => (nameIn directory entry.1).filter kept := by
  rw [namesIn, List.filter_filterMap]

theorem hidden_of_dropped (dropped : directory = other → kept file = false) :
    (nameIn other (directory ++ [file])).filter kept = none := by
  cases found : nameIn other (directory ++ [file]) with
  | none => rfl
  | some name =>
      have same := nameIn_eq_some_iff.1 found
      obtain ⟨ways, files⟩ := List.append_inj' same rfl
      cases files
      simp [dropped ways]

theorem filter_namesIn_put (disk : Disk) (entry : DiskEntry)
    (dropped : directory = other → kept file = false) :
    (namesIn (disk.put (directory ++ [file]) entry) other).filter kept =
      (disk.namesIn other).filter kept := by
  rw [filter_namesIn, filter_namesIn]
  exact filterMap_putEntry fun _ => hidden_of_dropped dropped

theorem filter_namesIn_erase (disk : Disk) (dropped : directory = other → kept file = false) :
    (namesIn (disk.erase (directory ++ [file])) other).filter kept =
      (disk.namesIn other).filter kept := by
  rw [filter_namesIn, filter_namesIn]
  exact filterMap_filter_ne fun _ => hidden_of_dropped dropped

end

/-! Disks with one entry for each path. -/

def Distinct (disk : Disk) : Prop := (disk.entries.map Prod.fst).Nodup

theorem mem_putEntry {path other : Path} {entry : DiskEntry} {entries : List (Path × DiskEntry)}
    (member : other ∈ (putEntry path entry entries).map Prod.fst) :
    other = path ∨ other ∈ entries.map Prod.fst := by
  by_cases same : other = path
  · exact .inl same
  · have found : find other (putEntry path entry entries) ≠ none :=
      fun missing => find_eq_none_iff.1 missing member
    rw [find_putEntry, if_neg same] at found
    exact .inr (Classical.not_not.1 fun absent => found (find_eq_none_iff.2 absent))

theorem Distinct.put {disk : Disk} (distinct : disk.Distinct) (path : Path) (entry : DiskEntry) :
    Distinct (disk.put path entry) := by
  obtain ⟨entries⟩ := disk
  change (entries.map Prod.fst).Nodup at distinct
  change ((putEntry path entry entries).map Prod.fst).Nodup
  induction entries with
  | nil => simp [putEntry]
  | cons head entries ih =>
      obtain ⟨other, previous⟩ := head
      obtain ⟨fresh, rest⟩ := List.nodup_cons.1 distinct
      rw [putEntry]
      split
      · rename_i same
        subst same
        exact List.nodup_cons.2 ⟨fresh, rest⟩
      · rename_i different
        refine List.nodup_cons.2 ⟨fun member => ?_, ih rest⟩
        rcases mem_putEntry member with same | member
        · exact different same.symm
        · exact fresh member

theorem Distinct.erase {disk : Disk} (distinct : disk.Distinct) (path : Path) :
    Distinct (disk.erase path) :=
  distinct.sublist (List.filter_sublist.map Prod.fst)

theorem Distinct.replaced {disk : Disk} (distinct : disk.Distinct) (temporary target : Path)
    (content : String) : Distinct (disk.replaced temporary target content) :=
  ((distinct.put _ _).erase _).put _ _

theorem Distinct.writeFile {disk after : Disk} {path : Path} {entry : DiskEntry}
    (distinct : disk.Distinct) (wrote : disk.writeFile path entry = .ok after) : after.Distinct := by
  obtain ⟨-, -, -, -, -, rfl⟩ := writeFile_ok wrote
  exact distinct.put _ _

theorem Distinct.createDirectories {disk after : Disk} {passed path : Path}
    (distinct : disk.Distinct) (created : disk.createDirectories passed path = .ok after) : after.Distinct := by
  induction path generalizing disk passed with
  | nil =>
      cases created
      exact distinct
  | cons step path ih =>
      rw [Disk.createDirectories] at created
      split at created
      · cases created
      · dsimp only at created
        split at created
        · exact ih (distinct.put _ _) created
        · exact ih distinct created
        · cases created

theorem Distinct.changed {disk : Disk} (distinct : disk.Distinct) {result : Except DiskFault Disk}
    (kept : ∀ after, result = .ok after → after.Distinct) : (disk.changed result).2.Distinct := by
  cases result with
  | error fault => exact distinct
  | ok after => exact kept after rfl

theorem Distinct.handle {disk : Disk} (distinct : disk.Distinct) (call : DiskCall) :
    (Disk.handle call disk).2.Distinct := by
  cases call with
  | readText | isThere | list => exact distinct
  | writeText path content => exact distinct.changed fun after wrote => distinct.writeFile wrote
  | createDirectories path =>
      exact distinct.changed fun after created => distinct.createDirectories created
  | rename source target =>
      refine distinct.changed fun after moved => ?_
      rw [rename] at moved
      split at moved
      · cases moved
      · exact (distinct.erase _).writeFile moved

theorem Distinct.nodup_namesIn {disk : Disk} (distinct : disk.Distinct) (directory : Path) :
    (disk.namesIn directory).Nodup := by
  refine List.pairwise_filterMap.2 ((List.pairwise_map.1 distinct).imp ?_)
  intro left right different name first other second same
  subst same
  exact different ((nameIn_eq_some_iff.1 first).trans (nameIn_eq_some_iff.1 second).symm)

/-! Directories that are reached. -/

theorem wayFault_concat (disk : Disk) (passed way : Path) (name : String) :
    wayFault disk passed (way ++ [name]) =
      match wayFault disk passed way with
      | some fault => some fault
      | none =>
        if name.utf8ByteSize > maxNameLength then some .nameTooLong
        else
          match disk.entry? (passed ++ way ++ [name]) with
          | none => some .notFound
          | some .directory => none
          | some _ => some .notDirectory := by
  induction way generalizing passed with
  | nil =>
      cases found : disk.entry? (passed ++ [name]) with
      | none => simp [wayFault, found]
      | some entry => cases entry <;> simp [wayFault, found]
  | cons step way ih =>
      rw [List.cons_append, wayFault, wayFault]
      split
      · rfl
      · cases disk.entry? (passed ++ [step]) with
        | none => rfl
        | some entry =>
            cases entry with
            | directory =>
                simp only [ih, List.append_assoc, List.cons_append, List.nil_append]
            | text | bytes => rfl

theorem look_eq_directory_iff {disk : Disk} {way : Path} :
    disk.look way = .ok .directory ↔ wayFault disk [] way = none := by
  rcases List.eq_nil_or_concat way with rfl | ⟨way, name, rfl⟩
  · simp [look, reachFault, wayFault, entry?]
  · rw [List.concat_eq_append, look, reachFault_concat, wayFault_concat]
    cases wayFault disk [] way with
    | some fault => simp
    | none =>
        by_cases long : name.utf8ByteSize > maxNameLength
        · simp [long]
        · simp only [long, if_false, List.nil_append]
          cases disk.entry? (way ++ [name]) with
          | none => simp
          | some entry => cases entry <;> simp

theorem look_congr {disk other : Disk} {way : Path}
    (same : ∀ path : Path, path.length ≤ way.length → other.entry? path = disk.entry? path) :
    other.look way = disk.look way := by
  rcases List.eq_nil_or_concat way with rfl | ⟨way, name, rfl⟩
  · rfl
  · rw [List.concat_eq_append] at same ⊢
    have above : wayFault other [] way = wayFault disk [] way := by
      refine wayFault_congr fun path shorter => same path ?_
      simp only [List.length_nil, List.length_append, List.length_singleton] at shorter ⊢
      omega
    rw [look, look, reachFault_concat, reachFault_concat, above, same _ (Nat.le_refl _)]

end GatewayControl.Disk
