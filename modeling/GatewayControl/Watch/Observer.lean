import GatewayControl.Failure
import GatewayControl.Snapshot

/-!
What is delivered of a series of observations of a store: every snapshot that differs from the one
before it, and every fault. A fault does not make the snapshot before it forgotten.
-/

namespace GatewayControl

inductive Delivery
  | snapshot (snapshot : Snapshot)
  | fault (fault : WatchFault)
deriving DecidableEq

structure Observer where
  delivered : Option Snapshot := none
deriving DecidableEq

namespace Observer

def observe (observer : Observer) : Except StorageFault Snapshot → Option Delivery × Observer
  | .error fault => (some (.fault (.load fault)), observer)
  | .ok snapshot =>
    if observer.delivered = some snapshot then (none, observer)
    else (some (.snapshot snapshot), ⟨some snapshot⟩)

def observeAll (observer : Observer) : List (Except StorageFault Snapshot) → List Delivery
  | [] => []
  | observation :: observations =>
    let (delivery, observer) := observer.observe observation
    delivery.toList ++ observer.observeAll observations

end Observer

end GatewayControl
