import GatewayControl.Proofs.Routing

/-!
The route file after any registrations. An operator that reconfigures skips the write of a table
that it has written last. That cannot be told from the file: it holds the routes registered since
the last reconfiguration, through any order of refused maps, failed writes and skipped ones.
-/

namespace GatewayControl

variable {σ : Type}

/-! The file at a path. -/

namespace Disk

def file? (disk : Disk) (path : Path) : Option DiskEntry :=
  (disk.entry? path).filter (· ≠ .directory)

/-- Whether the file at a path is the same as before, and can be read if it could. -/
structure Spares (path : Path) (before after : Disk) : Prop where
  file : after.file? (resolve path) = before.file? (resolve path)
  keeps : Keeps path before after

theorem Spares.rfl (path : Path) (tree : Disk) : Spares path tree tree := ⟨Eq.refl _, .rfl tree⟩

theorem Spares.trans {path : Path} {first second third : Disk} (one : Spares path first second)
    (two : Spares path second third) : Spares path first third :=
  ⟨two.file.trans one.file, one.keeps.trans two.keeps⟩

theorem createDirectories_new {disk made : Disk} {passed path : Path}
    (created : disk.createDirectories passed path = .ok made) {other : Path} {entry : DiskEntry}
    (found : made.entry? other = some entry) :
    disk.entry? other = some entry ∨ entry = .directory := by
  induction path generalizing disk passed with
  | nil =>
      cases created
      exact .inl found
  | cons step path ih =>
      rw [createDirectories] at created
      split at created
      · cases created
      · dsimp only at created
        split at created
        · rcases ih created with before | directory
          · rw [entry?_put (by simp)] at before
            split at before
            · exact .inr (Option.some.inj before).symm
            · exact .inl before
          · exact .inr directory
        · exact ih created
        · cases created

theorem file?_createDirectories {disk made : Disk} {passed path : Path}
    (created : disk.createDirectories passed path = .ok made) (other : Path) :
    made.file? other = disk.file? other := by
  rw [file?, file?]
  cases found : disk.entry? other with
  | some entry => rw [createDirectories_kept created found]
  | none =>
      cases later : made.entry? other with
      | none => rfl
      | some entry =>
          rcases createDirectories_new created later with before | rfl
          · cases found.symm.trans before
          · rfl

theorem file?_writeFile {disk written : Disk} {path other : Path} {entry : DiskEntry}
    (wrote : disk.writeFile path entry = .ok written) (apart : other ≠ path) :
    written.file? other = disk.file? other := by
  obtain ⟨way, name, rfl, -, -, rfl⟩ := writeFile_ok wrote
  rw [file?, file?, entry?_put (by simp), if_neg apart]

end Disk

namespace RouteOperator

theorem prepares_spares {operator : RouteOperator}
    (other : Path.nameExtension operator.path.fileName ≠ some "tmp") :
    operator.Prepares (Disk.Spares operator.path) where
  rfl := Disk.Spares.rfl _
  trans := Disk.Spares.trans
  directories created :=
    ⟨Disk.file?_createDirectories created _, (prepares_keeps other).directories created⟩
  temporary put := by
    refine ⟨Disk.file?_writeFile put fun same => ?_, (prepares_keeps other).temporary put⟩
    refine Path.not_prefix_of_temporary other ?_
    rw [same]
    exact List.prefix_rfl

theorem run_reconfigure_failed {operator : RouteOperator} {may : Disk → Disk → Prop}
    {handler : DiskHandler σ} {tree : σ → Disk} (prepares : operator.Prepares may)
    (faulty : FailingDisk may handler tree) {world : σ} {fault : OperatorFault}
    (failed : (operator.reconfigure.run handler world).1.1 = .error fault) :
    may (tree world) (tree (operator.reconfigure.run handler world).2) := by
  rw [reconfigure] at failed ⊢
  by_cases same : operator.lastWritten = some operator.table
  · rw [if_pos same]
    exact prepares.rfl _
  · rw [if_neg same, Program.run_bind] at failed ⊢
    have outcome := run_write prepares faulty operator.table world
    dsimp only at outcome
    generalize (operator.write operator.table).run handler world = result at outcome failed ⊢
    rcases outcome with ⟨_, stopped, kept⟩ | ⟨succeeded, -⟩
    · rw [stopped]
      exact kept
    · rw [succeeded] at failed
      cases failed

/-! Registering one map. -/

theorem mem_routes_iff {map : ResolverMap} {routes : List Route} (routed : routesOf map = .ok routes)
    (route : Route) :
    route ∈ routes ↔ ∃ binding ∈ map.upstreamBindings, route = Route.ofBinding binding := by
  obtain ⟨forth, back⟩ := mapM_eq_ok routed
  constructor
  · intro member
    obtain ⟨binding, bound, made⟩ := back route member
    split at made
    · cases made
    · cases made
      exact ⟨binding, bound, rfl⟩
  · rintro ⟨binding, bound, rfl⟩
    obtain ⟨route, member, made⟩ := forth binding bound
    split at made
    · cases made
    · cases made
      exact member

theorem register_cases (operator : RouteOperator) (map : ResolverMap) :
    (∃ fault, operator.register map = (.error fault, operator)) ∨
      ∃ routes, routesOf map = .ok routes ∧ operator.register map =
        (.ok (), { operator with
          pending := routes.foldl (fun pending route => route.insert pending) operator.pending }) := by
  rw [register]
  cases routed : routesOf map with
  | error fault => exact .inl ⟨fault, rfl⟩
  | ok routes => exact .inr ⟨routes, rfl, rfl⟩

/-! Histories of registrations. -/

section

variable {disk : DiskHandler σ} {tree : σ → Disk} {virtualService role : String} {path : Path}
  {operator : RouteOperator} {world : σ} {maps : List ResolverMap}

/-- The operators that registering maps and reconfiguring in any order leads to, with the maps that
were registered since the last reconfiguration. Between two calls the world may change in any way
that spares the file. -/
inductive Reached (disk : DiskHandler σ) (tree : σ → Disk) (virtualService role : String)
    (path : Path) : RouteOperator → σ → List ResolverMap → Prop
  | start (world : σ) :
      Reached disk tree virtualService role path { virtualService, role, path } world []
  | meanwhile {operator : RouteOperator} {world : σ} {maps : List ResolverMap} (later : σ)
      (reached : Reached disk tree virtualService role path operator world maps)
      (spares : Disk.Spares path (tree world) (tree later)) :
      Reached disk tree virtualService role path operator later maps
  | registered {operator : RouteOperator} {world : σ} {maps : List ResolverMap} (map : ResolverMap)
      (reached : Reached disk tree virtualService role path operator world maps)
      (accepted : (operator.register map).1 = .ok ()) :
      Reached disk tree virtualService role path (operator.register map).2 world (maps ++ [map])
  | refused {operator : RouteOperator} {world : σ} {maps : List ResolverMap} (map : ResolverMap)
      (fault : OperatorFault)
      (reached : Reached disk tree virtualService role path operator world maps)
      (failed : (operator.register map).1 = .error fault) :
      Reached disk tree virtualService role path (operator.register map).2 world maps
  | reconfigured {operator : RouteOperator} {world : σ} {maps : List ResolverMap}
      (reached : Reached disk tree virtualService role path operator world maps) :
      Reached disk tree virtualService role path (operator.reconfigure.run disk world).1.2
        (operator.reconfigure.run disk world).2 []

structure Linked (virtualService role : String) (path : Path) (operator : RouteOperator)
    (file : Disk) (maps : List ResolverMap) : Prop where
  service : operator.virtualService = virtualService
  role : operator.role = role
  path : operator.path = path
  written : operator.Written file
  ascending : Route.Ascending operator.pending
  routes : ∀ route, route ∈ operator.pending ↔
    ∃ map ∈ maps, ∃ binding ∈ map.upstreamBindings, route = Route.ofBinding binding

namespace Linked

theorem register (linked : Linked virtualService role path operator (tree world) maps)
    {map : ResolverMap} (accepted : (operator.register map).1 = .ok ()) :
    Linked virtualService role path (operator.register map).2 (tree world) (maps ++ [map]) := by
  rcases operator.register_cases map with ⟨fault, refused⟩ | ⟨routes, routed, registered⟩
  · rw [refused] at accepted
    cases accepted
  · rw [registered]
    refine ⟨linked.service, linked.role, linked.path, linked.written,
      linked.ascending.foldl_insert routes, fun route => ?_⟩
    rw [Route.mem_foldl_insert, mem_routes_iff routed, linked.routes]
    simp only [List.mem_append, List.mem_singleton, or_and_right, exists_or, exists_eq_left]
    exact or_comm

theorem reconfigure (linked : Linked virtualService role path operator (tree world) maps)
    (faulty : FailingDisk (Disk.Spares path) disk tree)
    (other : Path.nameExtension path.fileName ≠ some "tmp") :
    let run := operator.reconfigure.run disk world
    Linked virtualService role path run.1.2 (tree run.2) [] ∧
      (run.1.1 = .ok () → (tree run.2).readText (Disk.resolve path) =
        .ok (Toml.write operator.table.toToml)) ∧
      ∀ fault, run.1.1 = .error fault → Disk.Spares path (tree world) (tree run.2) := by
  obtain ⟨service, ownRole, rfl, written, -, -⟩ := linked
  have unreliable : UnreliableDisk disk tree operator.path := by
    intro call state
    rcases faulty call state with made | ⟨fault, failed, spares⟩
    · exact .inl made
    · exact .inr ⟨fault, failed, spares.keeps⟩
  obtain ⟨after, holds, read⟩ := run_reconfigure unreliable other world written
  intro run
  have forgotten : run.1.2 = { operator with pending := [], lastWritten := run.1.2.lastWritten } :=
    after
  refine ⟨⟨?_, ?_, ?_, holds, ?_, ?_⟩, read, fun fault =>
    run_reconfigure_failed (prepares_spares other) faulty⟩
  · rw [forgotten]
    exact service
  · rw [forgotten]
    exact ownRole
  · rw [forgotten]
  · rw [forgotten]
    exact .nil
  · intro route
    rw [forgotten]
    simp

end Linked

theorem Reached.linked (reached : Reached disk tree virtualService role path operator world maps)
    (faulty : FailingDisk (Disk.Spares path) disk tree)
    (other : Path.nameExtension path.fileName ≠ some "tmp") :
    Linked virtualService role path operator (tree world) maps := by
  induction reached with
  | start world =>
      refine ⟨rfl, rfl, rfl, ?_, .nil, by simp⟩
      intro table last
      cases last
  | @meanwhile operator world maps later reached spares ih =>
      refine ⟨ih.service, ih.role, ih.path, fun table last => ?_, ih.ascending, ih.routes⟩
      have read := ih.written table last
      rw [ih.path] at read ⊢
      exact spares.keeps _ read
  | registered map reached accepted ih => exact ih.register accepted
  | @refused operator world maps map fault reached failed ih =>
      rcases operator.register_cases map with ⟨_, refused⟩ | ⟨_, _, registered⟩
      · rwa [refused]
      · rw [registered] at failed
        cases failed
  | reconfigured reached ih => exact (ih.reconfigure faulty other).1

/-- Whatever was registered, refused, written, skipped or not written before: reconfiguring leaves
the routes of the maps registered since the last time in the file, or it fails and leaves the file
as it was. A map that is refused leaves no routes. -/
theorem Reached.reconfigure_file
    (reached : Reached disk tree virtualService role path operator world maps)
    (faulty : FailingDisk (Disk.Spares path) disk tree)
    (other : Path.nameExtension path.fileName ≠ some "tmp") :
    let run := operator.reconfigure.run disk world
    (run.1.1 = .ok () →
      ∃ table, ((RouteTable.load path).run Disk.handle (tree run.2)).1 = .ok table ∧
        table.virtualService = virtualService ∧ table.role = role ∧
        Route.Ascending table.routes ∧ table.routes.Nodup ∧
        ∀ route, route ∈ table.routes ↔
          ∃ map ∈ maps, ∃ binding ∈ map.upstreamBindings, route = Route.ofBinding binding) ∧
    (∀ fault, run.1.1 = .error fault → Disk.Spares path (tree world) (tree run.2)) ∧
    ∀ map fault, (operator.register map).1 = .error fault → (operator.register map).2 = operator := by
  intro run
  have linked := reached.linked faulty other
  obtain ⟨-, read, spared⟩ := linked.reconfigure faulty other
  refine ⟨fun succeeded => ⟨operator.table, ?_, linked.service, linked.role, linked.ascending,
    linked.ascending.nodup, linked.routes⟩, spared, fun map fault failed => ?_⟩
  · rw [RouteTable.load, Program.run_call, Disk.handle, read succeeded]
    exact RouteTable.parse_write _
  · rcases operator.register_cases map with ⟨_, refused⟩ | ⟨_, _, registered⟩
    · rw [refused]
    · rw [registered] at failed
      cases failed

end

end RouteOperator

theorem eq_ok_of_toBool {ε : Type} {reply : Except ε Unit} (succeeded : reply.toBool = true) :
    reply = .ok () := by
  cases reply with
  | error fault => cases succeeded
  | ok _ => rfl

/-- A disk that cannot rename at first, can once, and fails whatever it is asked then. -/
def stubbornWorld : FaultyWorld where
  faults := [none, none, some (.other "disk full"), none, none, none, some (.other "disk full")]

def findUsers : ResolverMap :=
  ({ name := "calls" } : ResolverMap).withField "Query" "total"
    (some (.upstream { upstream := "users", function := "find" }))

theorem register_findUsers (operator : RouteOperator) :
    (operator.register findUsers).1 = .ok () := by
  have routed : RouteOperator.routesOf findUsers = .ok [⟨"/users/find", "users", "find"⟩] := by rfl
  rw [RouteOperator.register, routed]

/-- After a failed and a good write of one table, a third one is skipped: the disk would fail. -/
theorem route_file_after_skipped_write :
    ∃ operator world, RouteOperator.Reached FaultyWorld.handleDisk FaultyWorld.tree "gateway" "proxy"
        ["routes.toml"] operator world [findUsers] ∧
      world.faults = [some (.other "disk full")] ∧
      (operator.reconfigure.run FaultyWorld.handleDisk world).2.faults = world.faults ∧
      ∃ table, ((RouteTable.load ["routes.toml"]).run Disk.handle
          (operator.reconfigure.run FaultyWorld.handleDisk world).2.tree).1 = .ok table ∧
        ⟨"/users/find", "users", "find"⟩ ∈ table.routes := by
  have start : RouteOperator.Reached FaultyWorld.handleDisk FaultyWorld.tree "gateway" "proxy"
      ["routes.toml"] { virtualService := "gateway", role := "proxy", path := ["routes.toml"] }
      stubbornWorld [] := .start stubbornWorld
  have failed := (start.registered findUsers (register_findUsers _)).reconfigured
  have written := (failed.registered findUsers (register_findUsers _)).reconfigured
  have reached := written.registered findUsers (register_findUsers _)
  obtain ⟨loads, -, -⟩ := reached.reconfigure_file
    (FaultyWorld.faulty (Disk.Spares.rfl ["routes.toml"])) (by decide)
  refine ⟨_, _, reached, by decide +kernel, by decide +kernel, ?_⟩
  obtain ⟨table, loaded, -, -, -, -, routes⟩ := loads (eq_ok_of_toBool (by decide +kernel))
  refine ⟨table, loaded, (routes _).2 ⟨findUsers, by simp, ?_⟩⟩
  exact ⟨{ upstream := "users", function := "find" }, by decide +kernel, rfl⟩

end GatewayControl
