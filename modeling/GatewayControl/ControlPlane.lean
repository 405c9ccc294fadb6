import GatewayControl.Config.Load
import GatewayControl.Gateway
import GatewayControl.Watch.Observer

/-!
The control plane: a gateway over a store in a directory, wired as a configuration says. Whatever
fails while it is set up keeps it from starting.
-/

namespace GatewayControl

inductive StartupFault
  | storage (fault : StorageFault)
  | proxy (fault : BuildFault)
  | watch (fault : WatchFault)
  | server (reason : String)
  | task (reason : String)
deriving DecidableEq, Repr

def StartupFault.message : StartupFault → String
  | storage fault => "failed to open storage: " ++ fault.message
  | proxy fault => "invalid proxy configuration: " ++ fault.message
  | watch fault => "failed to start configuration watcher: " ++ fault.message
  | server reason => "HTTP server failed: " ++ reason
  | task reason => "HTTP server task failed: " ++ reason

structure ControlPlane where
  config : Config
  store : FileStore
  proxy : Proxy
  operator : RouteOperator

namespace ControlPlane

def setup (directory : Path) (config : Config) :
    DiskProgram (Except StartupFault ControlPlane) :=
  (FileStore.open (directory.within config.storage.root)).bind fun
    | .error fault => .done (.error (.storage fault))
    | .ok store =>
      match Proxy.ofAddress config.proxy.address with
      | .error fault => .done (.error (.proxy fault))
      | .ok proxy =>
        .done (.ok {
          config, store, proxy
          operator := {
            virtualService := config.proxy.virtualService
            role := config.proxy.role
            path := directory.within config.proxy.routeTablePath } })

def gateway (plane : ControlPlane) (disk : Disk) : Gateway where
  backend := .files plane.store
  proxy := plane.proxy
  operator := plane.operator
  disk := disk

end ControlPlane

/-- Runs a pass for every new observation of the store until an observation shows nothing new, for
at most so many observations. A store that cannot be read is left as it is. -/
def Gateway.settle : Nat → Observer → Gateway → Gateway
  | 0, _, gateway => gateway
  | limit + 1, observer, gateway =>
    match observer.observe gateway.snapshot with
    | (some (.snapshot snapshot), observer) => settle limit observer (gateway.pass snapshot).2
    | (some (.fault _), _) | (none, _) => gateway

end GatewayControl
