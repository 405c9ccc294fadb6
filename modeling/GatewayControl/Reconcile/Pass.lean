import GatewayControl.Reconcile.Derive
import GatewayControl.Reporter

/-!
A pass over a snapshot: derive endpoints, serve them, write the reports, and reconfigure the proxy.
Every step is taken whatever failed before, and all failures make up the result.
-/

namespace GatewayControl

inductive PassCall
  | derive (call : DeriveCall)
  | serve (endpoints : List Endpoint)
  | writeReports (reports : List Report)
  | reconfigure

@[reducible] def PassCall.Reply : PassCall → Type
  | derive call => call.Reply
  | serve _ => Unit
  | writeReports _ => Except Failure Unit
  | reconfigure => Except OperatorFault Unit

abbrev PassProgram := Program PassCall.Reply

def failureOf : Except Failure Unit → List Failure
  | .ok _ => []
  | .error failure => [failure]

def operatorFailureOf : Except OperatorFault Unit → List Failure
  | .ok _ => []
  | .error fault => [.operator fault]

def reconcile (proxy : Proxy) (snapshot : Snapshot) : PassProgram (Except Failure Unit) :=
  (Program.embed PassCall.derive (deriveEndpoints proxy snapshot)).bind fun derivation =>
    .call (.serve derivation.endpoints) fun _ =>
      .call (.writeReports derivation.reports) fun written =>
        .call .reconfigure fun reconfigured =>
          .done ((gatherReported derivation.reports).pushAll
            (derivation.failures ++ failureOf written ++ operatorFailureOf reconfigured)).toResult

inductive OperatorCall
  | register (map : ResolverMap)
  | reconfigure

@[reducible] def OperatorCall.Reply (_ : OperatorCall) : Type := Except OperatorFault Unit

abbrev OperatorHandler (σ : Type) := Handler OperatorCall.Reply σ

def deriveHandler {σ : Type} (store : StoreHandler σ) (operator : OperatorHandler σ) :
    Handler DeriveCall.Reply σ
  | .store call, state => store call state
  | .register map, state => operator (.register map) state

/-- Answers the calls of a pass with a store, an operator and a way to serve endpoints. Reports are
written to the same store, after `noted` has taken note of them. -/
def passHandler {σ : Type} (store : StoreHandler σ) (operator : OperatorHandler σ)
    (serve : List Endpoint → σ → σ) (noted : List Report → σ → σ) : Handler PassCall.Reply σ
  | .derive call, state => deriveHandler store operator call state
  | .serve endpoints, state => ((), serve endpoints state)
  | .writeReports reports, state => (Reporter.writeReports reports).run store (noted reports state)
  | .reconfigure, state => operator .reconfigure state

end GatewayControl
