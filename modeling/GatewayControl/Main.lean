import GatewayControl.CommandLine
import GatewayControl.EventLoop

/-!
The program. It sets up the control plane that the command line asks for, looks at the store in the
interval of the configuration, and runs a pass over every snapshot that is new, until it is ended
from outside.
-/

namespace GatewayControl

def usage : String :=
  "Usage: gateway-control [--config <PATH>] [--storage-root <PATH>] [--bind <ADDRESS>]"

def diskFaultOf : IO.Error → DiskFault
  | .noFileOrDirectory _ _ _ | .resourceVanished _ _ => .notFound
  | .alreadyExists _ _ _ => .alreadyExists
  | error => .other (toString error)

def attempt (action : IO α) : IO (Except DiskFault α) := do
  match ← action.toBaseIO with
  | .ok value => return .ok value
  | .error error => return .error (diskFaultOf error)

def readTextFile (path : Path) : IO (Except DiskFault String) := do
  match ← attempt (IO.FS.readBinFile path.display) with
  | .error fault => return .error fault
  | .ok bytes =>
    match String.fromUTF8? bytes with
    | some content => return .ok content
    | none => return .error .invalidText

def callDisk : (call : DiskCall) → IO call.Reply
  | .readText path => readTextFile path
  | .writeText path content => attempt (IO.FS.writeFile path.display content)
  | .rename source target => attempt (IO.FS.rename source.display target.display)
  | .createDirectories path => attempt (IO.FS.createDirAll path.display)
  | .isThere path => attempt do return ← ((← IO.currentDir) / path.display).pathExists
  | .list path => attempt do
    let entries ← ((← IO.currentDir) / path.display).readDir
    return entries.toList.map fun entry => entry.fileName

structure Running where
  plane : ControlPlane
  operator : IO.Ref RouteOperator
  table : IO.Ref EndpointTable

namespace Running

def callStore (running : Running) (call : StoreCall) : IO call.Reply :=
  (running.plane.store.answer call).runIn callDisk

def register (running : Running) (map : ResolverMap) : IO (Except OperatorFault Unit) :=
  running.operator.modifyGet fun operator => operator.register map

def reconfigure (running : Running) : IO (Except OperatorFault Unit) := do
  let (reply, operator) ← (← running.operator.get).reconfigure.runIn callDisk
  running.operator.set operator
  return reply

def callPass (running : Running) : (call : PassCall) → IO call.Reply
  | .derive (.store call) => running.callStore call
  | .derive (.register map) => running.register map
  | .serve endpoints => do
    running.table.set (.ofEndpoints endpoints)
    for endpoint in endpoints do
      IO.println ("serving " ++ endpoint.rootPath ++ " and " ++ endpoint.queryPath)
  | .writeReports reports => (Reporter.writeReports reports).runIn running.callStore
  | .reconfigure => running.reconfigure

def look (running : Running) (observer : Observer) : IO Observer := do
  let (delivery, observer) := observer.observe (← readSnapshot.runIn running.callStore)
  match delivery with
  | none => return observer
  | some (.fault fault) =>
    IO.eprintln (LoopError.message ⟨.watcher, .watch fault⟩)
    return observer
  | some (.snapshot snapshot) =>
    match ← (reconcile running.plane.proxy snapshot).runIn running.callPass with
    | .ok _ => return observer
    | .error failure =>
      IO.eprintln (LoopError.message ⟨.update, failure⟩)
      return observer

def run (running : Running) : IO Unit := do
  let mut observer : Observer := {}
  repeat
    observer ← running.look observer
    IO.sleep (UInt32.ofNat (min (1000 * running.plane.config.storage.pollIntervalSeconds) 0xffffffff))

end Running

def isAddress (address : String) : Bool := (Net.SocketAddress.parse address).isSome

def runWith (options : Options) : IO UInt32 := do
  match ← (launch isAddress [] options).runIn callDisk with
  | .error fault =>
    IO.eprintln ("Error: " ++ fault.message)
    return 1
  | .ok plane =>
    let operator ← IO.mkRef plane.operator
    let table ← IO.mkRef {}
    Running.run { plane, operator, table }
    return 0

end GatewayControl

open GatewayControl in
def main (arguments : List String) : IO UInt32 := do
  match Invocation.parse arguments with
  | .error fault =>
    IO.eprintln ("error: " ++ fault.message)
    IO.eprintln usage
    return 2
  | .ok .help =>
    IO.println usage
    return 0
  | .ok (.run options) => runWith options
