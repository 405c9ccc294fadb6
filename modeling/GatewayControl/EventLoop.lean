import GatewayControl.Reconcile.Pass

/-!
The event loop. It takes snapshots, watch faults and queued errors one at a time, runs a pass over
each snapshot, and ends when it is told to stop. Errors go through a queue that only the loop itself
empties, so they are sent to it from outside: an error is on its way first, and gets into the queue
when there is room. Between two calls of a pass everything else can go on, but no event is taken.
-/

namespace GatewayControl

inductive ErrorOrigin
  | update
  | watcher
deriving DecidableEq, Repr

def ErrorOrigin.word : ErrorOrigin → String
  | update => "update"
  | watcher => "watcher"

structure LoopError where
  origin : ErrorOrigin
  failure : Failure

def LoopError.message (error : LoopError) : String :=
  match error.origin with
  | .update => "update failed: " ++ error.failure.message
  | .watcher => error.failure.message

def snapshotCapacity : Nat := 1

def watchFaultCapacity : Nat := 16

structure EventLoop (σ : Type) (π : Type := PassProgram (Except Failure Unit)) where
  world : σ
  capacity : Nat
  running : Option π := none
  snapshots : List Snapshot := []
  watchFaults : List WatchFault := []
  /-- Errors that are not in the queue yet. -/
  sending : List LoopError := []
  queue : List LoopError := []
  handled : List LoopError := []
  stopped : Bool := false

inductive LoopEvent
  | snapshotArrives (snapshot : Snapshot)
  | watchFaultArrives (fault : WatchFault)
  | takeSnapshot
  | takeWatchFault
  /-- The error at a position among those being sent gets into the queue. -/
  | enqueue (position : Nat)
  | handleError
  /-- The running pass makes its next call, or ends. -/
  | advance
  | stop

namespace EventLoop

variable {σ π : Type}

/-- A queue holds at least one error, whatever was asked for. -/
def start (capacity : Nat) (world : σ) : EventLoop σ π where
  world := world
  capacity := max capacity 1

def idle (loop : EventLoop σ π) : Bool := loop.running.isNone && !loop.stopped

def send (loop : EventLoop σ π) (error : LoopError) : EventLoop σ π :=
  { loop with sending := loop.sending ++ [error] }

def endPass (loop : EventLoop σ π) (result : Except Failure Unit) : EventLoop σ π :=
  let ended := { loop with running := none }
  match result with
  | .ok _ => ended
  | .error failure => ended.send ⟨.update, failure⟩

def arriveSnapshot? (loop : EventLoop σ π) (snapshot : Snapshot) : Option (EventLoop σ π) :=
  if !loop.stopped && loop.snapshots.length < snapshotCapacity then
    some { loop with snapshots := loop.snapshots ++ [snapshot] }
  else none

def arriveWatchFault? (loop : EventLoop σ π) (fault : WatchFault) : Option (EventLoop σ π) :=
  if !loop.stopped && loop.watchFaults.length < watchFaultCapacity then
    some { loop with watchFaults := loop.watchFaults ++ [fault] }
  else none

def takeSnapshot? (pass : Snapshot → π) (loop : EventLoop σ π) : Option (EventLoop σ π) :=
  match loop.snapshots with
  | [] => none
  | snapshot :: snapshots =>
    if loop.idle then some { loop with snapshots, running := some (pass snapshot) }
    else none

def takeWatchFault? (loop : EventLoop σ π) : Option (EventLoop σ π) :=
  match loop.watchFaults with
  | [] => none
  | fault :: watchFaults =>
    if loop.idle then some ({ loop with watchFaults }.send ⟨.watcher, .watch fault⟩) else none

def enqueue? (loop : EventLoop σ π) (position : Nat) : Option (EventLoop σ π) :=
  match loop.sending[position]? with
  | none => none
  | some error =>
    if !loop.stopped && loop.queue.length < loop.capacity then
      some { loop with
        sending := loop.sending.eraseIdx position
        queue := loop.queue ++ [error] }
    else none

def handleError? (loop : EventLoop σ π) : Option (EventLoop σ π) :=
  match loop.queue with
  | [] => none
  | error :: queue =>
    if loop.idle then some { loop with queue, handled := loop.handled ++ [error] } else none

def stop? (loop : EventLoop σ π) : Option (EventLoop σ π) :=
  if loop.idle then some { loop with stopped := true } else none

variable {Call : Type} {Reply : Call → Type}

def advance? (handle : Handler Reply σ) (loop : EventLoop σ (Program Reply (Except Failure Unit))) :
    Option (EventLoop σ (Program Reply (Except Failure Unit))) :=
  match loop.running with
  | none => none
  | some (.done result) => some (loop.endPass result)
  | some (.call request next) =>
    let (reply, world) := handle request loop.world
    some { loop with world, running := some (next reply) }

def step? (pass : Snapshot → Program Reply (Except Failure Unit)) (handle : Handler Reply σ)
    (loop : EventLoop σ (Program Reply (Except Failure Unit))) :
    LoopEvent → Option (EventLoop σ (Program Reply (Except Failure Unit)))
  | .snapshotArrives snapshot => loop.arriveSnapshot? snapshot
  | .watchFaultArrives fault => loop.arriveWatchFault? fault
  | .takeSnapshot => loop.takeSnapshot? pass
  | .takeWatchFault => loop.takeWatchFault?
  | .enqueue position => loop.enqueue? position
  | .handleError => loop.handleError?
  | .advance => loop.advance? handle
  | .stop => loop.stop?

/-! Coming to rest: what happens when nothing more arrives. -/

def finishPass? (handle : Handler Reply σ)
    (loop : EventLoop σ (Program Reply (Except Failure Unit))) :
    Option (EventLoop σ (Program Reply (Except Failure Unit))) :=
  match loop.running with
  | none => none
  | some pass =>
    let (result, world) := pass.run handle loop.world
    some ({ loop with world }.endPass result)

/-- What happens next, in an order that takes passes first. -/
def next? (proxy : Proxy) (handle : Handler PassCall.Reply σ) (loop : EventLoop σ) :
    Option (EventLoop σ) :=
  (loop.finishPass? handle).or
    ((loop.takeSnapshot? (reconcile proxy)).or
      (loop.takeWatchFault?.or ((loop.enqueue? 0).or loop.handleError?)))

/-- How much is left to do. An event that is taken can leave an error to be sent, which is then
queued and handled. -/
def workload (loop : EventLoop σ π) : Nat :=
  6 * loop.snapshots.length + 4 * loop.running.toList.length + 3 * loop.watchFaults.length +
    2 * loop.sending.length + loop.queue.length

theorem workload_endPass_le (loop : EventLoop σ π) (result : Except Failure Unit) :
    (loop.endPass result).workload + 4 * loop.running.toList.length ≤ loop.workload + 2 := by
  cases result <;> simp only [endPass, send, workload, List.length_append, List.length_cons,
    List.length_nil, Option.toList_none] <;> omega

theorem workload_finishPass?_lt {handle : Handler PassCall.Reply σ} {loop after : EventLoop σ}
    (finished : loop.finishPass? handle = some after) : after.workload < loop.workload := by
  rw [finishPass?] at finished
  split at finished
  · cases finished
  · rename_i pass running
    cases finished
    have less := workload_endPass_le { loop with world := (pass.run handle loop.world).2 }
      (pass.run handle loop.world).1
    change _ + 4 * loop.running.toList.length ≤ loop.workload + 2 at less
    have single : loop.running.toList.length = 1 := by rw [running]; rfl
    omega

theorem workload_takeSnapshot?_lt {pass : Snapshot → π} {loop after : EventLoop σ π}
    (taken : loop.takeSnapshot? pass = some after) : after.workload < loop.workload := by
  rw [takeSnapshot?] at taken
  split at taken
  · cases taken
  · rename_i snapshot snapshots waiting
    split at taken
    · cases taken
      simp only [workload, waiting, List.length_cons, Option.toList_some, List.length_nil]
      omega
    · cases taken

theorem workload_takeWatchFault?_lt {loop after : EventLoop σ π}
    (taken : loop.takeWatchFault? = some after) : after.workload < loop.workload := by
  rw [takeWatchFault?] at taken
  split at taken
  · cases taken
  · rename_i fault watchFaults waiting
    split at taken
    · cases taken
      simp only [workload, send, waiting, List.length_cons, List.length_append, List.length_nil]
      omega
    · cases taken

theorem workload_enqueue?_lt {loop after : EventLoop σ π} {position : Nat}
    (queued : loop.enqueue? position = some after) : after.workload < loop.workload := by
  rw [enqueue?] at queued
  split at queued
  · cases queued
  · rename_i error found
    split at queued
    · cases queued
      have bound := (List.getElem?_eq_some_iff.1 found).1
      simp only [workload, List.length_append, List.length_cons, List.length_nil,
        List.length_eraseIdx_of_lt bound]
      omega
    · cases queued

theorem workload_handleError?_lt {loop after : EventLoop σ π}
    (taken : loop.handleError? = some after) : after.workload < loop.workload := by
  rw [handleError?] at taken
  split at taken
  · cases taken
  · rename_i error queue waiting
    split at taken
    · cases taken
      simp only [workload, waiting, List.length_cons]
      omega
    · cases taken

theorem workload_next?_lt {proxy : Proxy} {handle : Handler PassCall.Reply σ}
    {loop after : EventLoop σ} (next : loop.next? proxy handle = some after) :
    after.workload < loop.workload := by
  simp only [next?, Option.or_eq_some_iff] at next
  rcases next with next | ⟨-, next | ⟨-, next | ⟨-, next | ⟨-, next⟩⟩⟩⟩
  · exact workload_finishPass?_lt next
  · exact workload_takeSnapshot?_lt next
  · exact workload_takeWatchFault?_lt next
  · exact workload_enqueue?_lt next
  · exact workload_handleError?_lt next

def settle (proxy : Proxy) (handle : Handler PassCall.Reply σ) (loop : EventLoop σ) : EventLoop σ :=
  match _ : loop.next? proxy handle with
  | none => loop
  | some after => settle proxy handle after
termination_by loop.workload
decreasing_by exact workload_next?_lt ‹_›

end EventLoop

end GatewayControl
