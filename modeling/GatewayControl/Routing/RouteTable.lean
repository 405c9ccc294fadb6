import GatewayControl.Disk.Call
import GatewayControl.ResolverMap
import GatewayControl.Failure

/-!
The route table of the proxy: a route for every upstream function in use, sorted and without
repetitions. The operator collects the routes of the maps that are registered during a pass, and
writes the table at the end of it, unless the same table was written last.
-/

namespace GatewayControl

structure Route where
  pathPrefix : String
  upstream : String
  function : String
deriving DecidableEq, Repr

namespace Route

/-- The order of routes: by path, then by upstream, then by function. -/
def before (left right : Route) : Bool :=
  left.pathPrefix < right.pathPrefix ||
    (left.pathPrefix = right.pathPrefix &&
      (left.upstream < right.upstream ||
        (left.upstream = right.upstream && left.function < right.function)))

def ofBinding (binding : UpstreamBinding) : Route where
  pathPrefix := "/" ++ binding.upstream ++ "/" ++ binding.function
  upstream := binding.upstream
  function := binding.function

def insert (route : Route) : List Route → List Route
  | [] => [route]
  | other :: rest =>
    if route = other then other :: rest
    else if route.before other then route :: other :: rest
    else other :: insert route rest

def toToml (route : Route) : Toml.Table :=
  [("path_prefix", .text route.pathPrefix), ("upstream", .text route.upstream),
    ("function", .text route.function)]

def ofToml? (record : Toml.Value) : Option Route := do
  let pathPrefix ← record.required 0 "path_prefix" Toml.Value.text?
  let upstream ← record.required 1 "upstream" Toml.Value.text?
  let function ← record.required 2 "function" Toml.Value.text?
  return { pathPrefix, upstream, function }

end Route

structure RouteTable where
  virtualService : String
  role : String
  routes : List Route := []
deriving DecidableEq, Repr

namespace RouteTable

def toToml (table : RouteTable) : Toml.Table :=
  [("virtual_service", .text table.virtualService), ("role", .text table.role),
    ("routes", .array (table.routes.map fun route => .table route.toToml))]

def ofToml? (record : Toml.Value) : Option RouteTable := do
  let virtualService ← record.required 0 "virtual_service" Toml.Value.text?
  let role ← record.required 1 "role" Toml.Value.text?
  let routes ← record.memberOr [] 2 "routes" fun value => do
    (← value.array?).mapM Route.ofToml?
  return { virtualService, role, routes }

def parse (content : String) : Except OperatorFault RouteTable :=
  match Toml.read content >>= fun table => ofToml? (.table table) with
  | some table => .ok table
  | none => .error (.serialize Toml.readErrorMessage)

def load (path : Path) : DiskProgram (Except OperatorFault RouteTable) :=
  .call (.readText path) fun
    | .error fault => .done (.error (.write path.display fault.message))
    | .ok content => .done (parse content)

end RouteTable

structure RouteOperator where
  virtualService : String
  role : String
  path : Path
  /-- The routes registered since the last reconfiguration. -/
  pending : List Route := []
  lastWritten : Option RouteTable := none
deriving DecidableEq

namespace RouteOperator

def routesOf (map : ResolverMap) : Except OperatorFault (List Route) :=
  map.upstreamBindings.mapM fun binding =>
    match (nameFault binding.upstream).or (nameFault binding.function) with
    | some fault => .error (.invalidRoute map.name fault.message)
    | none => .ok (.ofBinding binding)

def register (operator : RouteOperator) (map : ResolverMap) :
    Except OperatorFault Unit × RouteOperator :=
  match routesOf map with
  | .error fault => (.error fault, operator)
  | .ok routes =>
    (.ok (), { operator with
      pending := routes.foldl (fun pending route => route.insert pending) operator.pending })

def table (operator : RouteOperator) : RouteTable where
  virtualService := operator.virtualService
  role := operator.role
  routes := operator.pending

def temporaryPath (operator : RouteOperator) : Path := operator.path.withExtension "tmp"

/-- Writes a table to a file beside the right one and renames it. -/
def write (operator : RouteOperator) (table : RouteTable) :
    DiskProgram (Except OperatorFault Unit) :=
  let failed (fault : DiskFault) : DiskProgram (Except OperatorFault Unit) :=
    .done (.error (.write operator.path.display fault.message))
  .call (.createDirectories operator.path.directory) fun
    | .error fault => failed fault
    | .ok _ =>
      .call (.writeText operator.temporaryPath (Toml.write table.toToml)) fun
        | .error fault => failed fault
        | .ok _ =>
          .call (.rename operator.temporaryPath operator.path) fun
            | .error fault => failed fault
            | .ok _ => .done (.ok ())

/-- Writes the table of the routes registered since the last call, and forgets them. -/
def reconfigure (operator : RouteOperator) :
    DiskProgram (Except OperatorFault Unit × RouteOperator) :=
  let table := operator.table
  let emptied := { operator with pending := [] }
  if operator.lastWritten = some table then .done (.ok (), emptied)
  else
    (operator.write table).bind fun
      | .error fault => .done (.error fault, emptied)
      | .ok _ => .done (.ok (), { emptied with lastWritten := some table })

end RouteOperator

end GatewayControl
