import GatewayControl.Proofs.Disk
import GatewayControl.Proofs.Paths
import GatewayControl.Proofs.Records
import GatewayControl.Proofs.Run
import GatewayControl.Routing.RouteTable

/-!
The file of the route table. A table reads back from its document as it was written. The operator
writes beside the file and renames, so on a disk that may fail at any operation the file holds the
table that was written last, however many attempts have failed since.
-/

namespace GatewayControl

open Toml (Value Table arrangedTable)

/-! Documents of route tables. -/

theorem tablesOf_elementNodes (tables : List Table) :
    Toml.tablesOf (Toml.elementNodes (tables.map Value.table)) =
      tables.map fun table => .table (arrangedTable table) := by
  induction tables with
  | nil => simp [Toml.elementNodes, Toml.tablesOf]
  | cons table tables ih =>
      rw [List.map_cons, Toml.elementNodes, Toml.tablesOf, ih]
      rfl

theorem arranged_tables (tables : List Table) :
    (Value.array (tables.map Value.table)).arranged =
      .array (tables.map fun table => .table (arrangedTable table)) := by
  cases tables with
  | nil => exact Value.Plain.empty.arranged_eq
  | cons table tables =>
      have headed : (Value.array ((table :: tables).map Value.table)).hasHeaders = true := by
        simp [Value.hasHeaders, Value.isTable]
      rw [Value.arranged, Value.node, if_pos headed, Toml.Node.value, tablesOf_elementNodes]

theorem Route.fits (room : Nat) (route : Route) : Value.Fits (room + 1) (.table route.toToml) :=
  .table (by simp [Route.toToml]) (by simp [Route.toToml, text_fits])

theorem Route.ofToml?_arranged (route : Route) :
    Route.ofToml? (.table (arrangedTable route.toToml)) = some route := by
  simp [Route.ofToml?, required_arranged, Route.toToml, Table.find?, Value.text?]

namespace RouteTable

theorem writes (table : RouteTable) : Writes table.toToml := by
  have routes : Value.Fits Toml.nestingLimit
      (.array (table.routes.map fun route => .table route.toToml)) := by
    cases table.routes with
    | nil => exact .plain .empty
    | cons route routes =>
        refine .tables (by simp) ?_ ?_
        · simp [Value.isTable]
        · intro item member
          obtain ⟨own, -, rfl⟩ := List.mem_map.1 member
          exact own.fits 78
  exact ⟨by simp [toToml], by simp [toToml, text_fits, routes]⟩

theorem ofToml?_arranged (table : RouteTable) :
    ofToml? (.table (arrangedTable table.toToml)) = some table := by
  have array : (Value.array (table.routes.map fun route => .table route.toToml)).arranged =
      .array (table.routes.map fun route => .table (arrangedTable route.toToml)) := by
    have arranged := arranged_tables (table.routes.map Route.toToml)
    rw [List.map_map, List.map_map] at arranged
    exact arranged
  have routes : table.routes.mapM
      (Route.ofToml? ∘ fun route => .table (arrangedTable route.toToml)) = some table.routes :=
    mapM_some fun route _ => route.ofToml?_arranged
  have distinct := table.writes.1
  have service : (Value.table (arrangedTable table.toToml)).required 0 "virtual_service"
      Value.text? = some table.virtualService := by
    rw [required_arranged Value.text? 0 _ distinct]
    simp [toToml, Table.find?, Value.text?]
  have role : (Value.table (arrangedTable table.toToml)).required 1 "role" Value.text? =
      some table.role := by
    rw [required_arranged Value.text? 1 _ distinct]
    simp [toToml, Table.find?, Value.text?]
  rw [ofToml?, service, role, memberOr_arranged _ 2 _ _ distinct]
  simp [toToml, Table.find?, array, Value.array?, routes]

theorem parse_write (table : RouteTable) : parse (Toml.write table.toToml) = .ok table := by
  obtain ⟨distinct, fits⟩ := table.writes
  rw [parse, Toml.read_write distinct fits]
  have own : ofToml? (.table (Toml.tableOf (Toml.contentNodes table.toToml))) = some table :=
    table.ofToml?_arranged
  simp [own]

end RouteTable

/-! The file that is written beside the table's own. -/

theorem Path.nameStem_append_ne {name : String} (other : Path.nameExtension name ≠ some "tmp") :
    Path.nameStem name ++ "." ++ "tmp" ≠ name := by
  intro same
  cases split : Path.splitName name with
  | none =>
      rw [Path.nameStem, split] at same
      have lengths := congrArg String.length same
      simp only [String.length_append] at lengths
      have dot : ".".length = 1 := by decide
      omega
  | some parts =>
      obtain ⟨stem, extension⟩ := parts
      obtain ⟨written, -⟩ := Path.splitName_eq_some_iff.1 split
      rw [Path.nameStem, split] at same
      have isTemporary : extension = "tmp" := by
        have whole := same.trans written
        rw [← String.toList_inj] at whole ⊢
        simpa using whole.symm
      rw [Path.nameExtension, split, isTemporary] at other
      exact other rfl

theorem Disk.resolve_append (way rest : Path) :
    Disk.resolve (way ++ rest) = Disk.resolve way ++ Disk.resolve rest :=
  List.filter_append ..

theorem Path.resolve_temporary (path : Path) :
    Disk.resolve (path.withExtension "tmp") =
      Disk.resolve path.directory ++ [path.stem ++ "." ++ "tmp"] := by
  have nonempty : path.stem ++ "." ++ "tmp" ≠ "" := by simp
  have notDot : path.stem ++ "." ++ "tmp" ≠ "." := by
    intro same
    have lengths := congrArg String.length same
    simp only [String.length_append] at lengths
    have widths : ".".length = 1 ∧ "tmp".length = 3 := by decide
    omega
  have kept : Disk.resolve [path.stem ++ "." ++ "tmp"] = [path.stem ++ "." ++ "tmp"] := by
    simp [Disk.resolve, nonempty, notDot]
  rw [Path.withExtension, Disk.resolve_append, kept]

/-- The way to a file never leads through the temporary file beside it. -/
theorem Path.not_prefix_of_temporary {path : Path}
    (other : Path.nameExtension path.fileName ≠ some "tmp") :
    ¬Disk.resolve (path.withExtension "tmp") <+: Disk.resolve path := by
  rw [Path.resolve_temporary]
  rcases List.eq_nil_or_concat path with rfl | ⟨way, name, rfl⟩
  · simp [Disk.resolve, Path.directory]
  · have last : Path.fileName (way ++ [name]) = name := by
      rw [Path.fileName, List.getLast?_concat, Option.getD_some]
    rw [List.concat_eq_append] at other ⊢
    rw [last] at other
    rw [Path.directory, List.dropLast_concat, Path.stem, last, Disk.resolve_append,
      List.prefix_append_right_inj]
    intro begins
    have different := Path.nameStem_append_ne other
    by_cases blank : name = "" ∨ name = "."
    · have nothing : Disk.resolve [name] = [] := by
        rcases blank with rfl | rfl <;> decide
      rw [nothing] at begins
      simp at begins
    · have own : Disk.resolve [name] = [name] := by
        simp only [not_or] at blank
        simp [Disk.resolve, blank.1, blank.2]
      rw [own] at begins
      simp [List.prefix_cons_iff] at begins
      exact different begins

/-! Writing on a disk that may fail. -/

def Disk.Keeps (path : Path) (before after : Disk) : Prop :=
  ∀ content, before.readText (resolve path) = .ok content →
    after.readText (resolve path) = .ok content

/-- Whether every operation either does what it should or fails, and leaves the file at the path as
it was if it fails. -/
def UnreliableDisk {σ : Type} (handler : DiskHandler σ) (disk : σ → Disk) (path : Path) : Prop :=
  ∀ call state,
    (handler call state).1 = (Disk.handle call (disk state)).1 ∧
        disk (handler call state).2 = (Disk.handle call (disk state)).2 ∨
      ∃ fault, (handler call state).1 = .error fault ∧
        Disk.Keeps path (disk state) (disk (handler call state).2)

/-- Whether every operation either does what it should or fails, and changes the disk only as it may
if it fails. -/
def FailingDisk {σ : Type} (may : Disk → Disk → Prop) (handler : DiskHandler σ) (disk : σ → Disk) :
    Prop :=
  ∀ call state,
    (handler call state).1 = (Disk.handle call (disk state)).1 ∧
        disk (handler call state).2 = (Disk.handle call (disk state)).2 ∨
      ∃ fault, (handler call state).1 = .error fault ∧ may (disk state) (disk (handler call state).2)

section

variable {σ : Type} {handler : DiskHandler σ} {disk : σ → Disk} {path : Path} {state : σ}
  {may : Disk → Disk → Prop}

theorem Disk.Keeps.rfl (tree : Disk) : Disk.Keeps path tree tree := fun _ read => read

theorem Disk.Keeps.trans {first second third : Disk} (one : Disk.Keeps path first second)
    (two : Disk.Keeps path second third) : Disk.Keeps path first third :=
  fun content read => two content (one content read)

theorem failed_or_changed {before after : Disk} (still : may before before)
    (result : Except DiskFault Disk) {reply : Except DiskFault Unit}
    (answered : reply = (before.changed result).1 ∧ after = (before.changed result).2 ∨
      ∃ fault, reply = .error fault ∧ may before after) :
    (∃ fault, reply = .error fault ∧ may before after) ∨ reply = .ok () ∧ result = .ok after := by
  rcases answered with ⟨rfl, rfl⟩ | failed
  · cases result with
    | error fault => exact .inl ⟨fault, rfl, still⟩
    | ok changed => exact .inr ⟨rfl, rfl⟩
  · exact .inl failed

namespace RouteOperator

variable {operator : RouteOperator}

structure Prepares (operator : RouteOperator) (may : Disk → Disk → Prop) : Prop where
  rfl : ∀ tree, may tree tree
  trans : ∀ {first second third}, may first second → may second third → may first third
  directories : ∀ {before after},
    Disk.createDirectories before [] (Disk.resolve operator.path.directory) = .ok after →
      may before after
  temporary : ∀ {before after entry},
    Disk.writeFile before (Disk.resolve operator.temporaryPath) entry = .ok after →
      may before after

theorem prepares_keeps (other : Path.nameExtension operator.path.fileName ≠ some "tmp") :
    operator.Prepares (Disk.Keeps operator.path) where
  rfl := Disk.Keeps.rfl
  trans := Disk.Keeps.trans
  directories created _ := Disk.readText_kept fun _ _ _ => Disk.createDirectories_kept created
  temporary put _ := Disk.readText_writeFile put (Path.not_prefix_of_temporary other)

/-- A table is written to the file, or an attempt fails before anything happens to the file. -/
theorem run_write (prepares : operator.Prepares may) (faulty : FailingDisk may handler disk)
    (table : RouteTable) (state : σ) :
    let run := (operator.write table).run handler state
    (∃ fault, run.1 = .error fault ∧ may (disk state) (disk run.2)) ∨
      run.1 = .ok () ∧
        (disk run.2).readText (Disk.resolve operator.path) = .ok (Toml.write table.toToml) := by
  have made := failed_or_changed (prepares.rfl _)
    ((disk state).createDirectories [] (Disk.resolve operator.path.directory))
    (faulty (.createDirectories operator.path.directory) state)
  simp only [write, Program.run_call]
  generalize handler (.createDirectories operator.path.directory) state = opened at made ⊢
  rcases made with ⟨fault, failed, kept⟩ | ⟨succeeded, created⟩
  · rw [failed]
    exact .inl ⟨_, rfl, kept⟩
  have keptOpened := prepares.directories created
  have wrote := failed_or_changed (prepares.rfl _)
    ((disk opened.2).writeFile (Disk.resolve operator.temporaryPath)
      (.text (Toml.write table.toToml)))
    (faulty (.writeText operator.temporaryPath (Toml.write table.toToml)) opened.2)
  simp only [succeeded, Program.run_call]
  generalize handler (.writeText operator.temporaryPath (Toml.write table.toToml)) opened.2 =
    written at wrote ⊢
  rcases wrote with ⟨fault, failed, kept⟩ | ⟨succeeded, put⟩
  · rw [failed]
    exact .inl ⟨_, rfl, prepares.trans keptOpened kept⟩
  have keptWritten := prepares.trans keptOpened (prepares.temporary put)
  have moved := failed_or_changed (prepares.rfl _)
    ((disk written.2).rename (Disk.resolve operator.temporaryPath)
      (Disk.resolve operator.path))
    (faulty (.rename operator.temporaryPath operator.path) written.2)
  simp only [succeeded, Program.run_call]
  generalize handler (.rename operator.temporaryPath operator.path) written.2 = renamed at moved ⊢
  rcases moved with ⟨fault, failed, kept⟩ | ⟨succeeded, replaced⟩
  · rw [failed]
    exact .inl ⟨_, rfl, prepares.trans keptWritten kept⟩
  · rw [succeeded]
    exact .inr ⟨rfl, Disk.readText_renamed put replaced⟩

def Written (operator : RouteOperator) (tree : Disk) : Prop :=
  ∀ table, operator.lastWritten = some table →
    tree.readText (Disk.resolve operator.path) = .ok (Toml.write table.toToml)

theorem run_reconfigure (unreliable : UnreliableDisk handler disk operator.path)
    (other : Path.nameExtension operator.path.fileName ≠ some "tmp") (state : σ)
    (written : operator.Written (disk state)) :
    let run := operator.reconfigure.run handler state
    run.1.2 = { operator with pending := [], lastWritten := run.1.2.lastWritten } ∧
      run.1.2.Written (disk run.2) ∧
      (run.1.1 = .ok () → (disk run.2).readText (Disk.resolve operator.path) =
        .ok (Toml.write operator.table.toToml)) := by
  rw [reconfigure]
  by_cases same : operator.lastWritten = some operator.table
  · simp only [same, if_true, Program.run_done]
    exact ⟨trivial, fun table last => written table (same.trans last), fun _ => written _ same⟩
  · simp only [same, if_false, Program.run_bind]
    have outcome := run_write (prepares_keeps other) unreliable operator.table state
    dsimp only at outcome
    generalize (operator.write operator.table).run handler state = result at outcome ⊢
    rcases outcome with ⟨fault, failed, kept⟩ | ⟨succeeded, read⟩
    · rw [failed]
      simp only [Program.run_done]
      exact ⟨trivial, fun table last => kept _ (written table last), fun succeeded => nomatch succeeded⟩
    · rw [succeeded]
      simp only [Program.run_done]
      refine ⟨trivial, fun table last => ?_, fun _ => read⟩
      cases last
      exact read

end RouteOperator

end

/-! Trying again on a disk that nothing else changes. -/

namespace RouteOperator

variable {operator : RouteOperator} {table : RouteTable} {tree : Disk}

theorem run_write_eq (operator : RouteOperator) (table : RouteTable) (tree : Disk) :
    (operator.write table).run Disk.handle tree =
      match tree.createDirectories [] (Disk.resolve operator.path.directory) with
      | .error fault => (.error (.write operator.path.display fault.message), tree)
      | .ok made =>
        match made.writeFile (Disk.resolve operator.temporaryPath)
          (.text (Toml.write table.toToml)) with
        | .error fault => (.error (.write operator.path.display fault.message), made)
        | .ok written =>
          match written.rename (Disk.resolve operator.temporaryPath)
            (Disk.resolve operator.path) with
          | .error fault => (.error (.write operator.path.display fault.message), written)
          | .ok renamed => (.ok (), renamed) := by
  simp only [write, Program.run_call, Disk.handle]
  cases tree.createDirectories [] (Disk.resolve operator.path.directory) with
  | error fault => rfl
  | ok made =>
      simp only [Disk.changed, Program.run_call, Disk.handle]
      cases made.writeFile (Disk.resolve operator.temporaryPath) (.text (Toml.write table.toToml)) with
      | error fault => rfl
      | ok written =>
          simp only [Program.run_call, Disk.handle]
          cases written.rename (Disk.resolve operator.temporaryPath) (Disk.resolve operator.path) <;>
            rfl

/-- An attempt to write that failed fails in the same way when it is repeated. -/
theorem run_write_again (failed : ((operator.write table).run Disk.handle tree).1 ≠ .ok ()) :
    (operator.write table).run Disk.handle ((operator.write table).run Disk.handle tree).2 =
      (operator.write table).run Disk.handle tree := by
  cases created : tree.createDirectories [] (Disk.resolve operator.path.directory) with
  | error fault =>
      have first := run_write_eq operator table tree
      simp only [created] at first
      rw [first]
      exact first
  | ok made =>
      have way := Disk.wayFault_createDirectories created
      cases wrote : made.writeFile (Disk.resolve operator.temporaryPath)
          (.text (Toml.write table.toToml)) with
      | error fault =>
          have first := run_write_eq operator table tree
          simp only [created, wrote] at first
          rw [first, run_write_eq, Disk.createDirectories_of_wayFault way]
          simp only [wrote]
      | ok written =>
          have still : Disk.wayFault written [] (Disk.resolve operator.path.directory) = none := by
            obtain ⟨-, -, -, -, -, rfl⟩ := Disk.writeFile_ok wrote
            rw [temporaryPath, Path.resolve_temporary, Disk.wayFault_put, way]
          cases moved : written.rename (Disk.resolve operator.temporaryPath)
              (Disk.resolve operator.path) with
          | error fault =>
              have first := run_write_eq operator table tree
              simp only [created, wrote, moved] at first
              rw [first, run_write_eq, Disk.createDirectories_of_wayFault still]
              simp only [Disk.writeFile_again wrote, moved]
          | ok renamed =>
              have first := run_write_eq operator table tree
              simp only [created, wrote, moved] at first
              rw [first] at failed
              exact absurd rfl failed

theorem run_reconfigure_again (operator : RouteOperator) (tree : Disk) :
    let run := operator.reconfigure.run Disk.handle tree
    { run.1.2 with pending := operator.pending }.reconfigure.run Disk.handle run.2 = run := by
  intro run
  by_cases same : operator.lastWritten = some operator.table
  · have first : run = ((.ok (), { operator with pending := [] }), tree) := by
      simp only [run, reconfigure, same, if_true, Program.run_done]
    have whole : { run.1.2 with pending := operator.pending } = operator := by rw [first]
    rw [whole, first]
    exact first
  · cases wrote : (operator.write operator.table).run Disk.handle tree with
    | mk result after =>
        cases result with
        | error fault =>
            have first : run = ((.error fault, { operator with pending := [] }), after) := by
              simp only [run, reconfigure, same, if_false, Program.run_bind, wrote, Program.run_done]
            have unwritten : ((operator.write operator.table).run Disk.handle tree).1 ≠ .ok () := by
              rw [wrote]
              exact fun succeeded => nomatch succeeded
            have again := run_write_again unwritten
            rw [wrote] at again
            have whole : { run.1.2 with pending := operator.pending } = operator := by rw [first]
            rw [whole, first]
            simp only [reconfigure, same, if_false, Program.run_bind, again, Program.run_done]
        | ok _ =>
            have first : run = ((.ok (),
                { operator with pending := [], lastWritten := some operator.table }), after) := by
              simp only [run, reconfigure, same, if_false, Program.run_bind, wrote, Program.run_done]
            rw [first]
            simp only [reconfigure, table, if_true, Program.run_done]

end RouteOperator

end GatewayControl
