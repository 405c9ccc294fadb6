import GatewayControl.Disk.Tree
import GatewayControl.Http.Respond
import GatewayControl.Metrics
import GatewayControl.Reconcile.Pass
import GatewayControl.Routing.RouteTable
import GatewayControl.Store.Files
import GatewayControl.Store.Memory

/-!
A gateway: a store in memory or on a disk, the proxy and its operator, the endpoints that are
served, and the counts of what was done.
-/

namespace GatewayControl

inductive Backend
  | memory (store : MemoryStore)
  | files (store : FileStore)
deriving DecidableEq

structure Gateway where
  backend : Backend
  proxy : Proxy
  operator : RouteOperator
  disk : Disk := {}
  table : EndpointTable := {}
  metrics : Metrics := {}
  reports : List Report := []

namespace Gateway

def onDisk (gateway : Gateway) (program : DiskProgram α) : α × Gateway :=
  let (result, disk) := program.run Disk.handle gateway.disk
  (result, { gateway with disk })

def handleStore : StoreHandler Gateway := fun call gateway =>
  match gateway.backend with
  | .memory store =>
    let (reply, store) := MemoryStore.handle call store
    (reply, { gateway with backend := .memory store })
  | .files store => gateway.onDisk (store.answer call)

def handleOperator : OperatorHandler Gateway
  | .register map, gateway =>
    let (reply, operator) := gateway.operator.register map
    (reply, { gateway with operator })
  | .reconfigure, gateway =>
    let ((reply, operator), gateway) := gateway.onDisk gateway.operator.reconfigure
    (reply, { gateway with operator })

def serve (endpoints : List Endpoint) (gateway : Gateway) : Gateway :=
  { gateway with
    table := .ofEndpoints endpoints
    metrics := gateway.metrics.recordEndpoints endpoints.length }

def replaceEndpoints (endpoints : List Endpoint) (gateway : Gateway) : Gateway :=
  { gateway with table := .ofEndpoints endpoints }

def noteReports (reports : List Report) (gateway : Gateway) : Gateway :=
  { gateway with reports, metrics := gateway.metrics.recordReports reports }

def notePass (result : Except Failure Unit) (gateway : Gateway) : Gateway :=
  { gateway with metrics := gateway.metrics.recordPass result.toBool }

def handlePass : Handler PassCall.Reply Gateway :=
  passHandler handleStore handleOperator serve noteReports

def pass (snapshot : Snapshot) (gateway : Gateway) : Except Failure Unit × Gateway :=
  let (result, gateway) := (reconcile gateway.proxy snapshot).run handlePass gateway
  (result, gateway.notePass result)

def snapshot (gateway : Gateway) : Except StorageFault Snapshot :=
  (readSnapshot.run handleStore gateway).1

def respond (gateway : Gateway) (request : Http.Request) : Http.Response :=
  Http.respond gateway.table request

end Gateway

end GatewayControl
