import GatewayControl.Proofs.Catalog
import GatewayControl.Proofs.Run
import GatewayControl.Reconcile.Pass
import GatewayControl.Routing.EndpointTable

/-!
A site on which passes run: a store in memory, any of whose calls may fail without effect, the
endpoints that are served, and an operator of the proxy. The calls of a pass are spelled out here,
those of the reporter too, so that every point between two calls of the store is a state of a run.
-/

namespace GatewayControl

inductive WorldCall
  | store (call : StoreCall)
  | operator (call : OperatorCall)
  | serve (endpoints : List Endpoint)

@[reducible] def WorldCall.Reply : WorldCall → Type
  | store call => call.Reply
  | operator call => OperatorCall.Reply call
  | serve _ => Unit

abbrev WorldProgram := Program WorldCall.Reply

def reportCalls (reports : List Report) : WorldProgram (Except Failure Unit) :=
  (Reporter.writeReports reports).embed WorldCall.store

/-- The calls behind a call of a pass: those of the reporter where reports are written. -/
def PassCall.spelled : (call : PassCall) → WorldProgram call.Reply
  | .derive (.store call) => .call (.store call) .done
  | .derive (.register map) => .call (.operator (.register map)) .done
  | .serve endpoints => .call (.serve endpoints) .done
  | .writeReports reports => reportCalls reports
  | .reconfigure => .call (.operator .reconfigure) .done

def passCalls (proxy : Proxy) (snapshot : Snapshot) : WorldProgram (Except Failure Unit) :=
  (reconcile proxy snapshot).expand PassCall.spelled

def passes (proxy : Proxy) : List Snapshot → WorldProgram Unit
  | [] => .done ()
  | snapshot :: snapshots => (passCalls proxy snapshot).bind fun _ => passes proxy snapshots

def worldHandler {σ : Type} (store : StoreHandler σ) (operator : OperatorHandler σ)
    (serve : List Endpoint → σ → σ) : Handler WorldCall.Reply σ
  | .store call, state => store call state
  | .operator call, state => operator call state
  | .serve endpoints, state => ((), serve endpoints state)

theorem run_spelled {σ : Type} (store : StoreHandler σ) (operator : OperatorHandler σ)
    (serve : List Endpoint → σ → σ) (call : PassCall) (state : σ) :
    (PassCall.spelled call).run (worldHandler store operator serve) state =
      passHandler store operator serve (fun _ state => state) call state := by
  cases call with
  | derive call => cases call <;> rfl
  | serve endpoints => rfl
  | writeReports reports => exact Program.run_embed WorldCall.store _ _ state
  | reconfigure => rfl

theorem run_passCalls {σ : Type} (store : StoreHandler σ) (operator : OperatorHandler σ)
    (serve : List Endpoint → σ → σ) (proxy : Proxy) (snapshot : Snapshot) (state : σ) :
    (passCalls proxy snapshot).run (worldHandler store operator serve) state =
      (reconcile proxy snapshot).run (passHandler store operator serve fun _ state => state)
        state := by
  have same : (fun request => (PassCall.spelled request).run (worldHandler store operator serve)) =
      passHandler store operator serve fun _ state => state :=
    funext fun call => funext fun state => run_spelled store operator serve call state
  rw [passCalls, Program.run_expand, same]

structure Site (ω : Type) where
  store : MemoryStore
  /-- For each of the next calls of the store, the fault that it fails with, if it is to fail. Calls
  for which nothing is left here reach the store. -/
  faults : List (Option StorageFault) := []
  table : EndpointTable := {}
  operator : ω

namespace Site

variable {ω : Type}

def handleStore : StoreHandler (Site ω) := fun call site =>
  match site.faults with
  | some fault :: faults => (.error fault, { site with faults })
  | none :: faults =>
    let (reply, store) := MemoryStore.handle call site.store
    (reply, { site with store, faults })
  | [] =>
    let (reply, store) := MemoryStore.handle call site.store
    (reply, { site with store })

def handleOperator (operator : OperatorHandler ω) : OperatorHandler (Site ω) := fun call site =>
  let (reply, state) := operator call site.operator
  (reply, { site with operator := state })

def serve (endpoints : List Endpoint) (site : Site ω) : Site ω :=
  { site with table := .ofEndpoints endpoints }

def handle (operator : OperatorHandler ω) : Handler WorldCall.Reply (Site ω) :=
  worldHandler handleStore (handleOperator operator) serve

end Site

end GatewayControl
