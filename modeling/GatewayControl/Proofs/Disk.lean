import GatewayControl.Disk.Tree

/-!
What operations on files leave alone. Whether a path is reached depends on the directories on its
way only, so files beside each other are reached or not together, and writing one of them changes no
other.
-/

namespace GatewayControl.Disk

theorem find_putEntry (path other : Path) (entry : DiskEntry) (entries : List (Path × DiskEntry)) :
    find other (putEntry path entry entries) =
      if other = path then some entry else find other entries := by
  induction entries with
  | nil => rfl
  | cons head entries ih =>
      obtain ⟨key, previous⟩ := head
      rw [putEntry]
      by_cases same : path = key
      · subst same
        rw [if_pos rfl, find, find]
        split <;> rfl
      · rw [if_neg same, find, ih, find]
        by_cases wanted : other = path
        · subst wanted
          simp [same]
        · simp [wanted]

theorem find_filter (path other : Path) (entries : List (Path × DiskEntry)) :
    find other (entries.filter fun entry => entry.1 ≠ path) =
      if other = path then none else find other entries := by
  induction entries with
  | nil => simp [find]
  | cons head entries ih =>
      obtain ⟨key, previous⟩ := head
      by_cases same : key = path
      · subst same
        rw [List.filter_cons_of_neg (by simp), ih, find]
        split <;> rfl
      · rw [List.filter_cons_of_pos (by simpa using same), find, ih, find]
        by_cases wanted : other = path
        · subst wanted
          simp [Ne.symm same]
        · simp [wanted]

theorem entry?_put {path : Path} (nonempty : path ≠ []) (disk : Disk) (entry : DiskEntry)
    (other : Path) :
    Disk.entry? (disk.put path entry) other = if other = path then some entry else disk.entry? other := by
  rw [ Disk.entry?, Disk.entry?, put, find_putEntry]
  by_cases root : other = []
  · simp [root, nonempty.symm]
  · simp [root]

theorem entry?_erase {path : Path} (nonempty : path ≠ []) (disk : Disk) (other : Path) :
    Disk.entry? (disk.erase path) other = if other = path then none else disk.entry? other := by
  rw [ Disk.entry?, Disk.entry?, erase, find_filter]
  by_cases root : other = []
  · simp [root, nonempty.symm]
  · simp [root]

def wayFault (disk : Disk) (passed : Path) : Path → Option DiskFault
  | [] => none
  | name :: rest =>
    if name.utf8ByteSize > maxNameLength then some .nameTooLong
    else
      match disk.entry? (passed ++ [name]) with
      | none => some .notFound
      | some .directory => wayFault disk (passed ++ [name]) rest
      | some _ => some .notDirectory

theorem reachFault_concat (disk : Disk) (passed way : Path) (name : String) :
    reachFault disk passed (way ++ [name]) =
      match wayFault disk passed way with
      | some fault => some fault
      | none => if name.utf8ByteSize > maxNameLength then some .nameTooLong else none := by
  induction way generalizing passed with
  | nil => simp [reachFault, wayFault]
  | cons step way ih =>
      rw [List.cons_append, reachFault, wayFault]
      split
      · rfl
      · have more : (way ++ [name]).isEmpty = false := by simp
        rw [more]
        cases disk.entry? (passed ++ [step]) with
        | none => rfl
        | some entry => 
            cases entry with
            | directory => exact ih _
            | text | bytes => rfl

theorem wayFault_congr {disk other : Disk} {passed way : Path}
    (same : ∀ path : Path, path.length ≤ passed.length + way.length →
      other.entry? path = disk.entry? path) :
    wayFault other passed way = wayFault disk passed way := by
  induction way generalizing passed with
  | nil => rfl
  | cons step way ih =>
      have here : other.entry? (passed ++ [step]) = disk.entry? (passed ++ [step]) := by
        refine same _ ?_
        simp only [List.length_append, List.length_cons, List.length_nil]
        omega
      have later : wayFault other (passed ++ [step]) way = wayFault disk (passed ++ [step]) way := by
        refine ih fun path short => same path ?_
        simp only [List.length_append, List.length_cons, List.length_nil] at short ⊢
        omega
      rw [wayFault, wayFault, here, later]

theorem readText_eq_ok_iff {disk : Disk} {way : Path} {name content : String} :
    disk.readText (way ++ [name]) = .ok content ↔
      wayFault disk [] way = none ∧ name.utf8ByteSize ≤ maxNameLength ∧
        disk.entry? (way ++ [name]) = some (.text content) := by
  rw [readText, look, reachFault_concat]
  cases wayFault disk [] way with
  | some fault => simp
  | none =>
      by_cases long : name.utf8ByteSize > maxNameLength
      · have notShort : ¬name.utf8ByteSize ≤ maxNameLength := by omega
        simp [long, notShort]
      · simp only [long, if_false]
        have short : name.utf8ByteSize ≤ maxNameLength := by omega
        cases disk.entry? (way ++ [name]) with
        | none => simp
        | some entry => cases entry <;> simp [short]

theorem isThere_eq_false_iff {disk : Disk} {path : Path} :
    disk.isThere path = .ok false ↔ disk.look path = .error .notFound := by
  rw [isThere]
  cases disk.look path with
  | ok entry => simp
  | error fault => cases fault <;> simp

theorem look_concat {disk : Disk} {way : Path} {name : String} (reached : wayFault disk [] way = none)
    (short : name.utf8ByteSize ≤ maxNameLength) :
    disk.look (way ++ [name]) =
      match disk.entry? (way ++ [name]) with
      | none => .error .notFound
      | some entry => .ok entry := by
  have fits : ¬name.utf8ByteSize > maxNameLength := by omega
  cases found : disk.entry? (way ++ [name]) <;>
    simp [look, reachFault_concat, reached, fits, found]

theorem entry?_of_isThere {disk : Disk} {path : Path} (there : disk.isThere path = .ok true) :
    disk.entry? path ≠ none := by
  intro absent
  have missing : ∃ fault, disk.look path = .error fault := by
    rw [look, absent]
    cases disk.reachFault [] path with
    | none => exact ⟨_, rfl⟩
    | some fault => exact ⟨fault, rfl⟩
  obtain ⟨fault, missing⟩ := missing
  rw [isThere, missing] at there
  cases fault <;> cases there

theorem entry?_of_missing {disk : Disk} {way : Path} {name : String}
    (reached : wayFault disk [] way = none)
    (missing : disk.look (way ++ [name]) = .error .notFound) : disk.entry? (way ++ [name]) = none := by
  rw [look, reachFault_concat, reached] at missing
  by_cases long : name.utf8ByteSize > maxNameLength
  · simp [long] at missing
  · simp only [long, if_false] at missing
    cases found : disk.entry? (way ++ [name]) with
    | none => rfl
    | some entry => simp [found] at missing

theorem readText_congr {disk other : Disk} {way : Path} {name : String}
    (ways : wayFault other [] way = wayFault disk [] way)
    (same : other.entry? (way ++ [name]) = disk.entry? (way ++ [name])) :
    other.readText (way ++ [name]) = disk.readText (way ++ [name]) := by
  rw [readText, readText, look, look, reachFault_concat, reachFault_concat, ways, same]

theorem writeFile_eq_ok_iff {disk written : Disk} {way : Path} {name : String} {entry : DiskEntry} :
    disk.writeFile (way ++ [name]) entry = .ok written ↔
      wayFault disk [] way = none ∧ name.utf8ByteSize ≤ maxNameLength ∧
        disk.entry? (way ++ [name]) ≠ some .directory ∧ written = disk.put (way ++ [name]) entry := by
  rw [writeFile, reachFault_concat]
  cases wayFault disk [] way with
  | some fault => simp
  | none =>
      by_cases long : name.utf8ByteSize > maxNameLength
      · have notShort : ¬name.utf8ByteSize ≤ maxNameLength := by omega
        simp [long, notShort]
      · simp only [long, if_false]
        have short : name.utf8ByteSize ≤ maxNameLength := by omega
        cases disk.entry? (way ++ [name]) with
        | none => simp [short, eq_comm]
        | some present => cases present <;> simp [short, eq_comm]

def replaced (disk : Disk) (temporary target : Path) (content : String) : Disk :=
  ((disk.put temporary (.text content)).erase temporary).put target (.text content)

theorem entry?_replaced {temporary target : Path} (nonempty : temporary ≠ []) (nonemptyTarget : target ≠ [])
    (disk : Disk) (content : String) (path : Path) :
    Disk.entry? (disk.replaced temporary target content) path =
      if path = target then some (.text content)
      else if path = temporary then none
      else disk.entry? path := by
  rw [replaced, entry?_put nonemptyTarget, entry?_erase nonempty, entry?_put nonempty]
  split
  · rfl
  · split <;> rfl

theorem ne_concat_of_length {path way : Path} (shorter : path.length ≤ way.length) (name : String) :
    path ≠ way ++ [name] := by
  rintro rfl
  simp only [List.length_append, List.length_singleton] at shorter
  omega

/-- A file that could be written beside another one can take its place. -/
theorem rename_of_writeFile {disk written : Disk} {way : Path} {name temporary content : String}
    (wrote : disk.writeFile (way ++ [temporary]) (.text content) = .ok written)
    (different : name ≠ temporary) (short : name.utf8ByteSize ≤ temporary.utf8ByteSize)
    (free : disk.entry? (way ++ [name]) ≠ some .directory) :
    written.rename (way ++ [temporary]) (way ++ [name]) =
      .ok (disk.replaced (way ++ [temporary]) (way ++ [name]) content) := by
  obtain ⟨reached, fits, -, rfl⟩ := writeFile_eq_ok_iff.1 wrote
  have nonempty : way ++ [temporary] ≠ [] := by simp
  have apart : way ++ [name] ≠ way ++ [temporary] := by simpa using different
  have onWay : ∀ path : Path, path.length ≤ ([] : Path).length + way.length →
      path ≠ way ++ [temporary] := by
    intro path shorter
    refine ne_concat_of_length ?_ temporary
    simpa using shorter
  have looked : (disk.put (way ++ [temporary]) (.text content)).look (way ++ [temporary]) =
      .ok (.text content) := by
    have ways : wayFault (disk.put (way ++ [temporary]) (.text content)) [] way = none := by
      rw [← reached]
      refine wayFault_congr fun path shorter => ?_
      rw [entry?_put nonempty, if_neg (onWay path shorter)]
    have long : ¬temporary.utf8ByteSize > maxNameLength := by omega
    rw [look, reachFault_concat, ways]
    simp [long, entry?_put nonempty]
  have kept : ∀ path, path ≠ way ++ [temporary] →
      Disk.entry? ((disk.put (way ++ [temporary]) (.text content)).erase (way ++ [temporary])) path =
        disk.entry? path := by
    intro path other
    rw [entry?_erase nonempty, if_neg other, entry?_put nonempty, if_neg other]
  rw [rename, looked]
  refine writeFile_eq_ok_iff.2 ⟨?_, by omega, ?_, rfl⟩
  · rw [← reached]
    exact wayFault_congr fun path shorter => kept path (onWay path shorter)
  · rw [kept _ apart]
    exact free

section

variable {disk : Disk} {way : Path} {name temporary content : String}

theorem wayFault_replaced (disk : Disk) (temporary name content : String) {other : Path}
    (beside : other.length ≤ way.length) :
    wayFault (disk.replaced (way ++ [temporary]) (way ++ [name]) content) [] other =
      wayFault disk [] other := by
  refine wayFault_congr fun path shorter => ?_
  have short : path.length ≤ way.length := by
    simp only [List.length_nil] at shorter
    omega
  rw [entry?_replaced (by simp) (by simp), if_neg (ne_concat_of_length short name),
    if_neg (ne_concat_of_length short temporary)]

theorem readText_replaced (reached : wayFault disk [] way = none)
    (short : name.utf8ByteSize ≤ maxNameLength) :
    (disk.replaced (way ++ [temporary]) (way ++ [name]) content).readText (way ++ [name]) =
      .ok content := by
  refine readText_eq_ok_iff.2 ⟨?_, short, ?_⟩
  · rw [wayFault_replaced disk temporary name content (Nat.le_refl _), reached]
  · rw [entry?_replaced (by simp) (by simp), if_pos rfl]

theorem readText_replaced_of_ne {other : Path} {last : String} (beside : other.length ≤ way.length)
    (notTemporary : other ++ [last] ≠ way ++ [temporary]) (apart : other ++ [last] ≠ way ++ [name]) :
    (disk.replaced (way ++ [temporary]) (way ++ [name]) content).readText (other ++ [last]) =
      disk.readText (other ++ [last]) := by
  refine readText_congr (wayFault_replaced disk temporary name content beside) ?_
  rw [entry?_replaced (by simp) (by simp), if_neg apart, if_neg notTemporary]

end

theorem eq_ok_of_changed {disk after : Disk} {result : Except DiskFault Disk} {answer : Unit}
    (changed : disk.changed result = (.ok answer, after)) : result = .ok after := by
  cases result with
  | error fault => cases changed
  | ok other =>
      cases changed
      rfl

theorem kept_of_error {call : DiskCall} {disk : Disk} {fault : DiskFault}
    (failed : (handle call disk).1 = .error fault) : (handle call disk).2 = disk := by
  have changes : ∀ result : Except DiskFault Disk,
      (disk.changed result).1 = .error fault → (disk.changed result).2 = disk := by
    intro result failed
    cases result with
    | error other => rfl
    | ok after => cases failed
  cases call with
  | readText | isThere | list => rfl
  | writeText | rename | createDirectories => exact changes _ failed

/-! What stays readable. -/

theorem wayFault_kept {disk other : Disk} {passed way : Path}
    (kept : ∀ path : Path, path <+: passed ++ way → ∀ entry, disk.entry? path = some entry →
      other.entry? path = some entry)
    (reached : wayFault disk passed way = none) : wayFault other passed way = none := by
  induction way generalizing passed with
  | nil => rfl
  | cons step way ih =>
      rw [wayFault] at reached ⊢
      split at reached
      · cases reached
      · rename_i short
        rw [if_neg short]
        split at reached
        · cases reached
        · rename_i here
          have onWay : passed ++ [step] <+: passed ++ step :: way :=
            ⟨way, by rw [List.append_assoc, List.singleton_append]⟩
          rw [kept _ onWay _ here]
          refine ih (fun path begins => kept path ?_) reached
          rwa [List.append_assoc, List.singleton_append] at begins
        · cases reached

theorem readText_kept {disk other : Disk} {path : Path} {content : String}
    (kept : ∀ part : Path, part <+: path → ∀ entry, disk.entry? part = some entry →
      other.entry? part = some entry)
    (read : disk.readText path = .ok content) : other.readText path = .ok content := by
  rcases List.eq_nil_or_concat path with rfl | ⟨way, name, rfl⟩
  · cases read
  · rw [List.concat_eq_append] at kept read ⊢
    obtain ⟨reached, short, found⟩ := readText_eq_ok_iff.1 read
    refine readText_eq_ok_iff.2 ⟨?_, short, kept _ List.prefix_rfl _ found⟩
    refine wayFault_kept (fun part begins => kept part ?_) reached
    exact List.IsPrefix.trans begins (List.prefix_append _ _)

theorem createDirectories_kept {disk made : Disk} {passed path : Path}
    (created : disk.createDirectories passed path = .ok made) {other : Path} {entry : DiskEntry}
    (found : disk.entry? other = some entry) : made.entry? other = some entry := by
  induction path generalizing disk passed with
  | nil =>
      cases created
      exact found
  | cons step path ih =>
      rw [createDirectories] at created
      split at created
      · cases created
      · dsimp only at created
        split at created
        · rename_i missing
          refine ih created ?_
          rw [entry?_put (by simp), if_neg, found]
          rintro rfl
          cases missing.symm.trans found
        · exact ih created found
        · cases created

theorem writeFile_ok {disk written : Disk} {path : Path} {entry : DiskEntry}
    (wrote : disk.writeFile path entry = .ok written) :
    ∃ way name, path = way ++ [name] ∧ wayFault disk [] way = none ∧
      name.utf8ByteSize ≤ maxNameLength ∧ written = disk.put path entry := by
  rcases List.eq_nil_or_concat path with rfl | ⟨way, name, rfl⟩
  · cases wrote
  · rw [List.concat_eq_append] at wrote ⊢
    obtain ⟨reached, short, -, same⟩ := writeFile_eq_ok_iff.1 wrote
    exact ⟨way, name, rfl, reached, short, same⟩

theorem wayFault_put (disk : Disk) (way : Path) (name : String) (entry : DiskEntry) :
    wayFault (disk.put (way ++ [name]) entry) [] way = wayFault disk [] way := by
  refine wayFault_congr fun path shorter => ?_
  rw [entry?_put (by simp), if_neg (ne_concat_of_length (by simpa using shorter) name)]

theorem readText_put {disk : Disk} {way : Path} {name content : String}
    (reached : wayFault disk [] way = none) (short : name.utf8ByteSize ≤ maxNameLength) :
    Disk.readText (disk.put (way ++ [name]) (.text content)) (way ++ [name]) = .ok content := by
  refine readText_eq_ok_iff.2 ⟨(wayFault_put disk way name _).trans reached, short, ?_⟩
  rw [entry?_put (by simp), if_pos rfl]

/-- Writing a file leaves those readable whose paths do not lead through it. -/
theorem readText_writeFile {disk written : Disk} {path other : Path} {entry : DiskEntry}
    {content : String} (wrote : disk.writeFile path entry = .ok written)
    (apart : ¬path <+: other) (read : disk.readText other = .ok content) :
    written.readText other = .ok content := by
  obtain ⟨way, name, rfl, -, -, rfl⟩ := writeFile_ok wrote
  refine readText_kept (fun part begins entry found => ?_) read
  rw [entry?_put (by simp), if_neg, found]
  rintro rfl
  exact apart begins

theorem eq_replaced_of_rename {disk written renamed : Disk} {source target : Path} {content : String}
    (wrote : disk.writeFile source (.text content) = .ok written)
    (moved : written.rename source target = .ok renamed) :
    renamed = disk.replaced source target content := by
  obtain ⟨way, name, rfl, -, -, rfl⟩ := writeFile_ok wrote
  rw [rename] at moved
  split at moved
  · cases moved
  · rename_i entry looked
    have own : entry = .text content := by
      rw [look] at looked
      split at looked
      · cases looked
      · rw [entry?_put (by simp), if_pos rfl] at looked
        cases looked
        rfl
    obtain ⟨-, -, rfl, -, -, rfl⟩ := writeFile_ok moved
    rw [own]
    rfl

theorem readText_renamed {disk written renamed : Disk} {source target : Path} {content : String}
    (wrote : disk.writeFile source (.text content) = .ok written)
    (moved : written.rename source target = .ok renamed) :
    renamed.readText target = .ok content := by
  have same := eq_replaced_of_rename wrote moved
  rw [rename] at moved
  split at moved
  · cases moved
  · obtain ⟨way, name, rfl, reached, short, rfl⟩ := writeFile_ok moved
    rw [same, replaced]
    have ways := congrArg (fun disk => wayFault disk [] way) same
    rw [replaced, wayFault_put, wayFault_put] at ways
    exact readText_put (ways.symm.trans reached) short

/-! Doing again what was done. -/

theorem wayFault_createDirectories {disk made : Disk} {passed path : Path}
    (created : disk.createDirectories passed path = .ok made) : wayFault made passed path = none := by
  induction path generalizing disk passed with
  | nil => rfl
  | cons step path ih =>
      rw [createDirectories] at created
      split at created
      · cases created
      · rename_i short
        dsimp only at created
        have opened : ∃ next : Disk, next.entry? (passed ++ [step]) = some .directory ∧
            next.createDirectories (passed ++ [step]) path = .ok made := by
          split at created
          · exact ⟨_, by rw [entry?_put (by simp), if_pos rfl], created⟩
          · rename_i here
            exact ⟨disk, here, created⟩
          · cases created
        obtain ⟨next, here, rest⟩ := opened
        rw [wayFault, if_neg short, createDirectories_kept rest here]
        exact ih rest

theorem createDirectories_of_wayFault {disk : Disk} {passed path : Path}
    (reached : wayFault disk passed path = none) : disk.createDirectories passed path = .ok disk := by
  induction path generalizing passed with
  | nil => rfl
  | cons step path ih =>
      rw [wayFault] at reached
      split at reached
      · cases reached
      · rename_i short
        split at reached
        · cases reached
        · rename_i here
          rw [createDirectories, if_neg short]
          simp only [here]
          exact ih reached
        · cases reached

theorem put_put (disk : Disk) (path : Path) (entry : DiskEntry) :
    (disk.put path entry).put path entry = disk.put path entry := by
  have entries : ∀ entries : List (Path × DiskEntry),
      putEntry path entry (putEntry path entry entries) = putEntry path entry entries := by
    intro entries
    induction entries with
    | nil => simp [putEntry]
    | cons head entries ih =>
        obtain ⟨other, previous⟩ := head
        by_cases same : path = other
        · simp [putEntry, same]
        · simp [putEntry, same, ih]
  exact congrArg Disk.mk (entries disk.entries)

theorem writeFile_again {disk written : Disk} {path : Path} {content : String}
    (wrote : disk.writeFile path (.text content) = .ok written) :
    written.writeFile path (.text content) = .ok written := by
  obtain ⟨way, name, rfl, reached, short, rfl⟩ := writeFile_ok wrote
  refine writeFile_eq_ok_iff.2 ⟨(wayFault_put disk way name _).trans reached, short, ?_,
    (put_put disk _ _).symm⟩
  rw [entry?_put (by simp), if_pos rfl]
  exact fun same => nomatch same

end GatewayControl.Disk
