import GatewayControl.Proofs.Derivation
import GatewayControl.Proofs.RouteFiles
import GatewayControl.Proofs.Routes
import GatewayControl.Reconcile.Pass
import GatewayControl.Routing.EndpointTable

/-!
Passes and the file of the route table. Every map that is registered has built, so no registration
fails, and the routes that are pending at the end of a pass are those of the endpoints that it
serves. Nothing is pending before the next pass, whether or not the table could be written.
-/

namespace GatewayControl

open GraphQL (TypeSystem)

variable {σ : Type}

theorem servedMap?_eq_some_iff {proxy : Proxy} {snapshot : Snapshot} {schema : Schema}
    {map : ResolverMap} :
    servedMap? proxy snapshot schema = some map ↔
      ∃ system resolvers, snapshot.mapOf? schema = some map ∧
        TypeSystem.parse schema.source = .ok system ∧ proxy.build system map = .ok resolvers := by
  simp only [servedMap?]
  cases snapshot.mapOf? schema with
  | none => simp
  | some other =>
      cases TypeSystem.parse schema.source with
      | error fault => simp [Except.toOption]
      | ok system =>
          cases built : proxy.build system other with
          | error fault =>
              have unbuilt : ∀ resolvers, other = map → proxy.build system map ≠ .ok resolvers := by
                rintro resolvers rfl builds
                cases built.symm.trans builds
              simpa [Except.toOption, built] using fun same resolvers => unbuilt resolvers same
          | ok resolvers =>
              have builds : other = map → ∃ resolvers, proxy.build system map = .ok resolvers := by
                rintro rfl
                exact ⟨resolvers, built⟩
              simpa [Except.toOption, built] using builds

namespace RouteOperator

def registerAll (maps : List ResolverMap) (operator : RouteOperator) : RouteOperator :=
  maps.foldl (fun operator map => (operator.register map).2) operator

theorem register_served {proxy : Proxy} {snapshot : Snapshot} {schema : Schema} {map : ResolverMap}
    (served : servedMap? proxy snapshot schema = some map) (operator : RouteOperator) :
    (operator.register map).1 = .ok () := by
  obtain ⟨system, resolvers, -, -, built⟩ := servedMap?_eq_some_iff.1 served
  obtain ⟨routes, routed, -⟩ := routesOf_built built
  rw [register, routed]

theorem registerAll_eq (maps : List ResolverMap) (operator : RouteOperator) :
    operator.registerAll maps = { operator with pending := (operator.registerAll maps).pending } := by
  induction maps generalizing operator with
  | nil => rfl
  | cons map maps ih =>
      have one : (operator.register map).2 =
          { operator with pending := (operator.register map).2.pending } := by
        rw [register]
        split <;> rfl
      have rest := ih (operator.register map).2
      rw [one] at rest
      rw [registerAll, List.foldl_cons, one]
      exact rest

theorem ascending_registerAll (maps : List ResolverMap) {operator : RouteOperator}
    (ascending : Route.Ascending operator.pending) :
    Route.Ascending (operator.registerAll maps).pending := by
  induction maps generalizing operator with
  | nil => exact ascending
  | cons map maps ih =>
      have one : Route.Ascending (operator.register map).2.pending := by
        rw [register]
        split
        · exact ascending
        · exact ascending.foldl_insert _
      exact ih one

theorem mem_registerAll (maps : List ResolverMap) (operator : RouteOperator) (route : Route) :
    route ∈ (operator.registerAll maps).pending ↔
      (∃ map ∈ maps, ∃ routes, routesOf map = .ok routes ∧ route ∈ routes) ∨
        route ∈ operator.pending := by
  induction maps generalizing operator with
  | nil => simp [registerAll]
  | cons map maps ih =>
      have rest := ih (operator.register map).2
      have one : route ∈ (operator.register map).2.pending ↔
          (∃ routes, routesOf map = .ok routes ∧ route ∈ routes) ∨ route ∈ operator.pending := by
        rw [register]
        cases routed : routesOf map with
        | error fault => simp
        | ok routes => simp [Route.mem_foldl_insert]
      rw [one] at rest
      rw [registerAll, List.foldl_cons]
      refine rest.trans ?_
      simp only [List.mem_cons, exists_eq_or_imp]
      exact or_left_comm.trans or_assoc.symm

end RouteOperator

/-- The routes of the maps that endpoints are served from are those that the endpoints call. -/
theorem exists_route_iff {proxy : Proxy} {snapshot : Snapshot} {route : Route} :
    (∃ map ∈ snapshot.schemas.filterMap (servedMap? proxy snapshot),
      ∃ routes, RouteOperator.routesOf map = .ok routes ∧ route ∈ routes) ↔
      ∃ endpoint ∈ snapshot.schemas.filterMap (endpointOf? proxy snapshot),
        endpoint.resolvers.Calls route := by
  simp only [List.mem_filterMap]
  constructor
  · rintro ⟨map, ⟨schema, member, served⟩, routes, routed, belongs⟩
    obtain ⟨system, resolvers, mapped, parsed, built⟩ := servedMap?_eq_some_iff.1 served
    obtain ⟨own, same, calls⟩ := routesOf_built built
    cases routed.symm.trans same
    exact ⟨_, ⟨schema, member, endpointOf?_eq_some_iff.2 ⟨map, system, resolvers, mapped, parsed,
      built, rfl⟩⟩, (calls route).1 belongs⟩
  · rintro ⟨endpoint, ⟨schema, member, served⟩, calls⟩
    obtain ⟨map, system, resolvers, mapped, parsed, built, rfl⟩ := endpointOf?_eq_some_iff.1 served
    obtain ⟨routes, routed, same⟩ := routesOf_built built
    exact ⟨map, ⟨schema, member, servedMap?_eq_some_iff.2 ⟨system, resolvers, mapped, parsed,
      built⟩⟩, routes, routed, (same route).2 calls⟩

/-- Whether an operator sees the registrations of a derivation and nothing else of it. -/
structure Registers (handler : Handler DeriveCall.Reply σ) (operator : σ → RouteOperator) : Prop where
  register : ∀ map state,
    (handler (.register map) state).1 = ((operator state).register map).1 ∧
      operator (handler (.register map) state).2 = ((operator state).register map).2
  store : ∀ call state, operator (handler (.store call) state).2 = operator state

namespace Registers

variable {handler : Handler DeriveCall.Reply σ} {operator : σ → RouteOperator}

theorem operator_run (registers : Registers handler operator) {α : Type} (program : DeriveProgram α)
    (state : σ) :
    operator (program.run handler state).2 = (operator state).registerAll
      (((program.steps handler state).filterMap Step.registration?).map Prod.fst) := by
  induction program generalizing state with
  | done value => rfl
  | call request next ih =>
      rw [Program.run_call, Program.steps_call, ih]
      cases request with
      | store call => rw [registers.store]; rfl
      | register map => rw [(registers.register map state).2]; rfl

theorem operator_deriveEndpoints (registers : Registers handler operator) (proxy : Proxy)
    (snapshot : Snapshot) (state : σ) :
    operator ((deriveEndpoints proxy snapshot).run handler state).2 =
      (operator state).registerAll (snapshot.schemas.filterMap (servedMap? proxy snapshot)) := by
  rw [registers.operator_run, registrations_deriveEndpoints, map_fst_registrationsFrom]

theorem registrations_ok (registers : Registers handler operator) (proxy : Proxy)
    (snapshot : Snapshot) (state : σ) :
    ∀ registration ∈ registrationsFrom handler proxy snapshot snapshot.schemas state,
      registration.2 = .ok () := by
  intro registration listed
  have served : registration.1 ∈ snapshot.schemas.filterMap (servedMap? proxy snapshot) := by
    have maps : (registrationsFrom handler proxy snapshot snapshot.schemas state).map Prod.fst = _ :=
      map_fst_registrationsFrom _ _
    rw [← maps]
    exact List.mem_map_of_mem listed
  obtain ⟨schema, -, serves⟩ := List.mem_filterMap.1 served
  obtain ⟨⟨before, call, answer, after⟩, belongs, made⟩ := List.mem_filterMap.1 listed
  cases call with
  | store call => cases made
  | register other =>
      cases made
      have handled := congrArg Prod.fst (Program.handled_of_mem_steps belongs)
      exact handled.symm.trans ((registers.register _ before).1.trans
        (RouteOperator.register_served serves _))

theorem failures_deriveEndpoints (registers : Registers handler operator) (proxy : Proxy)
    (snapshot : Snapshot) (state : σ) :
    ((deriveEndpoints proxy snapshot).run handler state).1.failures = [] := by
  rw [run_deriveEndpoints]
  refine (failures_registrationsFrom snapshot.schemas state).trans ?_
  rw [List.filterMap_eq_nil_iff]
  rintro ⟨map, reply⟩ listed
  have accepted : reply = .ok () := registers.registrations_ok proxy snapshot state _ listed
  rw [accepted]
  rfl

end Registers

def Step.registered? : Step PassCall.Reply σ → Option (Except OperatorFault Unit)
  | ⟨_, .derive (.register _), reply, _⟩ => some reply
  | _ => none

def Step.reconfigured? : Step PassCall.Reply σ → Option (Except OperatorFault Unit)
  | ⟨_, .reconfigure, reply, _⟩ => some reply
  | _ => none

structure RoutedSite (σ : Type) where
  world : σ
  operator : RouteOperator
  table : EndpointTable := {}

namespace RoutedSite

def handleStore (store : StoreHandler σ) : StoreHandler (RoutedSite σ) := fun call site =>
  ((store call site.world).1, { site with world := (store call site.world).2 })

def handleOperator (disk : DiskHandler σ) : OperatorHandler (RoutedSite σ)
  | .register map, site =>
    ((site.operator.register map).1, { site with operator := (site.operator.register map).2 })
  | .reconfigure, site =>
    let run := site.operator.reconfigure.run disk site.world
    (run.1.1, { site with operator := run.1.2, world := run.2 })

def serve (endpoints : List Endpoint) (site : RoutedSite σ) : RoutedSite σ :=
  { site with table := .ofEndpoints endpoints }

def handle (store : StoreHandler σ) (disk : DiskHandler σ) : Handler PassCall.Reply (RoutedSite σ) :=
  passHandler (handleStore store) (handleOperator disk) serve fun _ site => site

def pass (store : StoreHandler σ) (disk : DiskHandler σ) (proxy : Proxy) (snapshot : Snapshot)
    (site : RoutedSite σ) : RoutedSite σ :=
  ((reconcile proxy snapshot).run (handle store disk) site).2

/-- The sites that a history of passes leads to, over any snapshots. Between passes the world may
change in any way that leaves the route file as it was. -/
inductive Reached (store : StoreHandler σ) (disk : DiskHandler σ) (tree : σ → Disk) (proxy : Proxy)
    (virtualService role : String) (path : Path) : RoutedSite σ → Prop
  | start (world : σ) (table : EndpointTable) :
      Reached store disk tree proxy virtualService role path
        { world, operator := { virtualService, role, path }, table }
  | meanwhile {site : RoutedSite σ} (world : σ) :
      Reached store disk tree proxy virtualService role path site →
      Disk.Keeps path (tree site.world) (tree world) →
      Reached store disk tree proxy virtualService role path { site with world }
  | pass {site : RoutedSite σ} (snapshot : Snapshot) :
      Reached store disk tree proxy virtualService role path site →
      Reached store disk tree proxy virtualService role path
        (site.pass store disk proxy snapshot)

section

variable {store : StoreHandler σ} {disk : DiskHandler σ} {tree : σ → Disk} {proxy : Proxy}
  {snapshot : Snapshot} {virtualService role : String} {path : Path}

abbrev deriveWith (store : StoreHandler σ) (disk : DiskHandler σ) :
    Handler DeriveCall.Reply (RoutedSite σ) :=
  deriveHandler (handleStore store) (handleOperator disk)

theorem registers (store : StoreHandler σ) (disk : DiskHandler σ) :
    Registers (deriveWith store disk) RoutedSite.operator where
  register _ _ := ⟨rfl, rfl⟩
  store _ _ := rfl

/-- Where a pass is when it comes to reconfigure the proxy. -/
def reported (store : StoreHandler σ) (disk : DiskHandler σ) (proxy : Proxy) (snapshot : Snapshot)
    (site : RoutedSite σ) : RoutedSite σ :=
  let derived := (deriveEndpoints proxy snapshot).run (deriveWith store disk) site
  ((Reporter.writeReports derived.1.reports).run (handleStore store)
    (serve derived.1.endpoints derived.2)).2

theorem pass_eq (site : RoutedSite σ) :
    site.pass store disk proxy snapshot =
      (handleOperator disk .reconfigure (site.reported store disk proxy snapshot)).2 := by
  rw [pass, handle, reconcile, Program.run_bind, Program.run_embed]
  rfl

theorem registered_steps (site : RoutedSite σ) :
    ((reconcile proxy snapshot).steps (handle store disk) site).filterMap Step.registered? =
      (((deriveEndpoints proxy snapshot).steps (deriveWith store disk) site).filterMap
        Step.registration?).map Prod.snd := by
  have embedded : ∀ step : Step DeriveCall.Reply (RoutedSite σ),
      Step.registered? (Step.embed PassCall.derive step : Step PassCall.Reply (RoutedSite σ)) =
        (Step.registration? step).map Prod.snd := by
    rintro ⟨before, call, reply, after⟩
    cases call <;> rfl
  have derived : (((deriveEndpoints proxy snapshot).steps (deriveWith store disk) site).map
      (Step.embed PassCall.derive)).filterMap Step.registered? =
        (((deriveEndpoints proxy snapshot).steps (deriveWith store disk) site).filterMap
          Step.registration?).map Prod.snd := by
    rw [List.filterMap_map, List.map_filterMap]
    exact congrArg (List.filterMap · _) (funext embedded)
  rw [reconcile, Program.steps_bind, Program.steps_embed, List.filterMap_append]
  exact (congrArg (· ++ []) derived).trans (List.append_nil _)

theorem reconfigured_steps (site : RoutedSite σ) :
    ((reconcile proxy snapshot).steps (handle store disk) site).filterMap Step.reconfigured? =
      [(handleOperator disk .reconfigure (site.reported store disk proxy snapshot)).1] := by
  have embedded : ∀ step : Step DeriveCall.Reply (RoutedSite σ),
      Step.reconfigured? (Step.embed PassCall.derive step : Step PassCall.Reply (RoutedSite σ)) =
        none :=
    fun step => rfl
  have derived : (((deriveEndpoints proxy snapshot).steps (deriveWith store disk) site).map
      (Step.embed PassCall.derive)).filterMap Step.reconfigured? = [] := by
    rw [List.filterMap_map]
    exact List.filterMap_eq_nil_iff.2 fun step _ => embedded step
  rw [reconcile, Program.steps_bind, Program.steps_embed, List.filterMap_append, Program.run_embed]
  exact congrArg (· ++ _) derived

theorem registered_ok (site : RoutedSite σ) :
    ∀ reply ∈ ((reconcile proxy snapshot).steps (handle store disk) site).filterMap
      Step.registered?, reply = .ok () := by
  intro reply member
  rw [registered_steps, registrations_deriveEndpoints, List.mem_map] at member
  obtain ⟨registration, listed, rfl⟩ := member
  exact (registers store disk).registrations_ok proxy snapshot site registration listed

theorem operator_reported (site : RoutedSite σ) :
    (site.reported store disk proxy snapshot).operator =
      site.operator.registerAll (snapshot.schemas.filterMap (servedMap? proxy snapshot)) := by
  refine Program.holds_at_end _ (fun after : RoutedSite σ => after.operator =
    site.operator.registerAll (snapshot.schemas.filterMap (servedMap? proxy snapshot))) ?_
    fun call before same => same
  exact (registers store disk).operator_deriveEndpoints proxy snapshot site

theorem table_reported (site : RoutedSite σ) :
    (site.reported store disk proxy snapshot).table =
      .ofEndpoints (snapshot.schemas.filterMap (endpointOf? proxy snapshot)) := by
  refine Program.holds_at_end _ (fun after : RoutedSite σ => after.table =
    .ofEndpoints (snapshot.schemas.filterMap (endpointOf? proxy snapshot))) ?_
    fun call before same => same
  rw [serve, endpoints_deriveEndpoints]

theorem keeps_reported (stores : ∀ call world, Disk.Keeps path (tree world) (tree (store call world).2))
    (site : RoutedSite σ) :
    Disk.Keeps path (tree site.world) (tree (site.reported store disk proxy snapshot).world) := by
  refine Program.holds_at_end _
    (fun after : RoutedSite σ => Disk.Keeps path (tree site.world) (tree after.world)) ?_
    fun call before kept => kept.trans (stores call before.world)
  refine Program.holds_at_end (deriveEndpoints proxy snapshot)
    (fun after : RoutedSite σ => Disk.Keeps path (tree site.world) (tree after.world)) (.rfl _) ?_
  intro call before kept
  cases call with
  | store call => exact kept.trans (stores call before.world)
  | register map => exact kept

/-- Whether nothing is pending and the file holds what was written last. -/
structure Sound (tree : σ → Disk) (virtualService role : String) (path : Path)
    (site : RoutedSite σ) : Prop where
  operator : site.operator = { virtualService, role, path, lastWritten := site.operator.lastWritten }
  written : site.operator.Written (tree site.world)

theorem Sound.path_eq {site : RoutedSite σ} (sound : site.Sound tree virtualService role path) :
    site.operator.path = path := by
  rw [sound.operator]

theorem Sound.pending_eq {site : RoutedSite σ} (sound : site.Sound tree virtualService role path) :
    site.operator.pending = [] := by
  rw [sound.operator]

theorem Sound.written_kept {site : RoutedSite σ} (sound : site.Sound tree virtualService role path)
    {other : Disk} (kept : Disk.Keeps path (tree site.world) other) {table : RouteTable}
    (last : site.operator.lastWritten = some table) :
    other.readText (Disk.resolve path) = .ok (Toml.write table.toToml) := by
  refine kept _ ?_
  have read := sound.written table last
  rwa [sound.path_eq] at read

theorem Sound.pass {site : RoutedSite σ} (sound : site.Sound tree virtualService role path)
    (unreliable : UnreliableDisk disk tree path)
    (stores : ∀ call world, Disk.Keeps path (tree world) (tree (store call world).2))
    (other : Path.nameExtension path.fileName ≠ some "tmp") :
    (site.pass store disk proxy snapshot).Sound tree virtualService role path ∧
      ((handleOperator disk .reconfigure (site.reported store disk proxy snapshot)).1 = .ok () →
        (tree (site.pass store disk proxy snapshot).world).readText (Disk.resolve path) =
          .ok (Toml.write (site.reported store disk proxy snapshot).operator.table.toToml)) := by
  have registered : (site.reported store disk proxy snapshot).operator = _ := operator_reported site
  have kept : Disk.Keeps path (tree site.world)
      (tree (site.reported store disk proxy snapshot).world) := keeps_reported stores site
  rw [pass_eq, handleOperator]
  generalize site.reported store disk proxy snapshot = before at registered kept ⊢
  have own : before.operator =
      { virtualService, role, path
        pending := before.operator.pending
        lastWritten := site.operator.lastWritten } := by
    have same := RouteOperator.registerAll_eq
      (snapshot.schemas.filterMap (servedMap? proxy snapshot)) site.operator
    rw [← registered, sound.operator] at same
    exact same
  have samePath : before.operator.path = path := congrArg RouteOperator.path own
  have written : before.operator.Written (tree before.world) := by
    intro table last
    rw [samePath]
    exact sound.written_kept kept ((congrArg RouteOperator.lastWritten own).symm.trans last)
  obtain ⟨after, holds, read⟩ := RouteOperator.run_reconfigure (samePath ▸ unreliable)
    (samePath ▸ other) before.world written
  rw [samePath] at read
  refine ⟨⟨?_, holds⟩, read⟩
  rw [after, own]

theorem Reached.sound {site : RoutedSite σ}
    (reached : Reached store disk tree proxy virtualService role path site)
    (unreliable : UnreliableDisk disk tree path)
    (stores : ∀ call world, Disk.Keeps path (tree world) (tree (store call world).2))
    (other : Path.nameExtension path.fileName ≠ some "tmp") :
    site.Sound tree virtualService role path := by
  induction reached with
  | start world table => exact ⟨rfl, fun table last => nomatch last⟩
  | @meanwhile site world reached kept ih =>
      refine ⟨ih.operator, fun table last => ?_⟩
      have stays := ih.written_kept kept last
      rwa [← ih.path_eq] at stays
  | pass snapshot reached ih => exact (ih.pass unreliable stores other).1

end

/-- Over any history of passes on a disk that may fail, with nobody else writing the route file,
no registration fails. If a pass can reconfigure the proxy, the file then has exactly the routes to
what the endpoints now served call, in strictly ascending order. -/
theorem reached_routes_iff_called {store : StoreHandler σ} {disk : DiskHandler σ} {tree : σ → Disk}
    {proxy : Proxy} {virtualService role : String} {path : Path}
    (unreliable : UnreliableDisk disk tree path)
    (stores : ∀ call world, Disk.Keeps path (tree world) (tree (store call world).2))
    (other : Path.nameExtension path.fileName ≠ some "tmp") {site : RoutedSite σ}
    (reached : Reached store disk tree proxy virtualService role path site) (snapshot : Snapshot) :
    let steps := (reconcile proxy snapshot).steps (handle store disk) site
    let after := site.pass store disk proxy snapshot
    (∀ reply ∈ steps.filterMap Step.registered?, reply = .ok ()) ∧
      (.ok () ∈ steps.filterMap Step.reconfigured? →
        ∃ table, ((RouteTable.load path).run Disk.handle (tree after.world)).1 = .ok table ∧
          table.virtualService = virtualService ∧ table.role = role ∧
          Route.Ascending table.routes ∧ table.routes.Nodup ∧
          ∀ route, route ∈ table.routes ↔
            ∃ endpoint ∈ after.table.endpoints, endpoint.resolvers.Calls route) := by
  intro steps after
  refine ⟨registered_ok site, fun reconfigured => ?_⟩
  have sound := reached.sound unreliable stores other
  have passed : after.Sound tree virtualService role path ∧ _ := sound.pass unreliable stores other
  rw [reconfigured_steps, List.mem_singleton] at reconfigured
  have read := passed.2 reconfigured.symm
  have registered : (site.reported store disk proxy snapshot).operator = _ := operator_reported site
  have served : after.table =
      .ofEndpoints (snapshot.schemas.filterMap (endpointOf? proxy snapshot)) := by
    have reported : (site.reported store disk proxy snapshot).table = _ := table_reported site
    have closed : after = _ := pass_eq site
    rw [closed, ← reported]
    rfl
  have own := RouteOperator.registerAll_eq
    (snapshot.schemas.filterMap (servedMap? proxy snapshot)) site.operator
  rw [← registered] at own
  have ascending : Route.Ascending (site.reported store disk proxy snapshot).operator.pending := by
    rw [registered]
    refine RouteOperator.ascending_registerAll _ ?_
    rw [sound.pending_eq]
    exact .nil
  refine ⟨(site.reported store disk proxy snapshot).operator.table, ?_, ?_, ?_, ascending,
    ascending.nodup, fun route => ?_⟩
  · rw [RouteTable.load, Program.run_call, Disk.handle, read]
    exact RouteTable.parse_write _
  · rw [own, sound.operator]
    rfl
  · rw [own, sound.operator]
    rfl
  · have member := RouteOperator.mem_registerAll
      (snapshot.schemas.filterMap (servedMap? proxy snapshot)) site.operator route
    rw [sound.pending_eq, ← registered, exists_route_iff] at member
    rw [served]
    exact member.trans (or_iff_left (List.not_mem_nil))

end RoutedSite

structure FaultyWorld where
  store : MemoryStore := {}
  tree : Disk := {}
  faults : List (Option DiskFault) := []

namespace FaultyWorld

def handleStore : StoreHandler FaultyWorld := fun call world =>
  ((MemoryStore.handle call world.store).1,
    { world with store := (MemoryStore.handle call world.store).2 })

def handleDisk : DiskHandler FaultyWorld := fun call world =>
  match world.faults with
  | some fault :: faults => (.error fault, { world with faults })
  | none :: faults =>
    ((Disk.handle call world.tree).1, { world with tree := (Disk.handle call world.tree).2, faults })
  | [] => ((Disk.handle call world.tree).1, { world with tree := (Disk.handle call world.tree).2 })

theorem faulty {may : Disk → Disk → Prop} (still : ∀ tree, may tree tree) :
    FailingDisk may handleDisk tree := by
  rintro call ⟨store, tree, faults⟩
  match faults with
  | some fault :: faults => exact .inr ⟨fault, rfl, still tree⟩
  | none :: faults => exact .inl ⟨rfl, rfl⟩
  | [] => exact .inl ⟨rfl, rfl⟩

theorem unreliable (path : Path) : UnreliableDisk handleDisk tree path := faulty Disk.Keeps.rfl

end FaultyWorld

/-- A store whose one schema calls an upstream, on a disk that fails to rename at first. -/
def upstreamWorld : FaultyWorld where
  store :=
    (({} : MemoryStore).putSchema
      { name := "orders", source := "type Query { total: Int }", resolverMap := "calls" }).putMap
      (({ name := "calls" } : ResolverMap).withField "Query" "total"
        (some (.upstream { upstream := "users", function := "find" })))
  faults := [none, none, some (.other "disk full")]

def upstreamSite : RoutedSite FaultyWorld where
  world := upstreamWorld
  operator := { virtualService := "gateway", role := "proxy", path := ["routes.toml"] }

def upstreamProxy : Proxy :=
  ⟨{ scheme := "http", host := some (.domain "proxy"), path := .segments [""] }⟩

/-- The first pass cannot write the route, and the second one does. -/
theorem route_written_after_failure :
    let handle := RoutedSite.handle FaultyWorld.handleStore FaultyWorld.handleDisk
    let snapshot := upstreamWorld.store.snapshot
    let failed := upstreamSite.pass FaultyWorld.handleStore FaultyWorld.handleDisk upstreamProxy
      snapshot
    let after := failed.pass FaultyWorld.handleStore FaultyWorld.handleDisk upstreamProxy snapshot
    (((reconcile upstreamProxy snapshot).steps handle upstreamSite).filterMap
        Step.reconfigured?).map Except.toBool = [false] ∧
      ∃ table, ((RouteTable.load ["routes.toml"]).run Disk.handle after.world.tree).1 = .ok table ∧
        ⟨"/users/find", "users", "find"⟩ ∈ table.routes := by
  intro handle snapshot failed after
  refine ⟨by decide +kernel, ?_⟩
  have reached : RoutedSite.Reached FaultyWorld.handleStore FaultyWorld.handleDisk FaultyWorld.tree
      upstreamProxy "gateway" "proxy" ["routes.toml"] failed := .pass snapshot (.start _ _)
  obtain ⟨-, routed⟩ := RoutedSite.reached_routes_iff_called (FaultyWorld.unreliable ["routes.toml"])
    (fun _ _ => .rfl _) (by decide) reached snapshot
  obtain ⟨reply, answered, succeeded⟩ : ∃ reply ∈ ((reconcile upstreamProxy snapshot).steps handle
      failed).filterMap Step.reconfigured?, reply.toBool = true := by
    decide +kernel
  cases reply with
  | error fault => cases succeeded
  | ok _ =>
      obtain ⟨table, loaded, -, -, -, -, routes⟩ := routed answered
      refine ⟨table, loaded, (routes _).2 ?_⟩
      obtain ⟨endpoint, served, called⟩ : ∃ endpoint ∈ after.table.endpoints,
          ((endpoint.resolvers.get? ⟨"Query", "total"⟩).any fun resolver =>
            match resolver with
            | .upstream call => call.route = ⟨"/users/find", "users", "find"⟩
            | _ => false) = true := by
        decide +kernel
      cases found : endpoint.resolvers.get? ⟨"Query", "total"⟩ with
      | none => simp [found] at called
      | some resolver =>
          cases resolver with
          | null | template => simp [found] at called
          | upstream call => exact ⟨endpoint, served, _, call, found, by simpa [found, eq_comm] using called⟩

end GatewayControl
