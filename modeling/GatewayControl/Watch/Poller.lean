import GatewayControl.Store.Call
import GatewayControl.Watch.Observer

/-!
Polling a store. Each tick takes one observation, and delivers what is new. Snapshots and faults
have a receiver each; polling ends when it is stopped, or when a delivery finds its receiver closed.
-/

namespace GatewayControl

structure Poller where
  observer : Observer := {}
  snapshotsOpen : Bool := true
  faultsOpen : Bool := true
  running : Bool := true
deriving DecidableEq

namespace Poller

def accepts (poller : Poller) : Delivery → Bool
  | .snapshot _ => poller.snapshotsOpen
  | .fault _ => poller.faultsOpen

def stop (poller : Poller) : Poller := { poller with running := false }

def observe (poller : Poller) (observation : Except StorageFault Snapshot) :
    Option Delivery × Poller :=
  let (delivery, observer) := poller.observer.observe observation
  let observed := { poller with observer }
  match delivery with
  | none => (none, observed)
  | some delivery => if poller.accepts delivery then (some delivery, observed) else (none, observed.stop)

def tick {σ : Type} (store : StoreHandler σ) (poller : Poller) (state : σ) :
    (Option Delivery × Poller) × σ :=
  if poller.running then
    let (observation, state) := readSnapshot.run store state
    (poller.observe observation, state)
  else ((none, poller), state)

/-- Whether a receiver of snapshots, and one of faults, finds its channel disconnected. -/
def disconnected (poller : Poller) : Bool × Bool :=
  (!poller.running || !poller.snapshotsOpen, !poller.running || !poller.faultsOpen)

end Poller

end GatewayControl
