import GatewayControl.EventLoop
import GatewayControl.Proofs.Run

/-!
The chronicle of an event loop: the loop, what has reached it, and what it has done, for every order
of its events.
-/

namespace GatewayControl

def watcherError (fault : WatchFault) : LoopError := ⟨.watcher, .watch fault⟩

def updateErrors (result : Except Failure Unit) : List LoopError :=
  (failureOf result).map (LoopError.mk .update)

structure Chronicle (σ : Type) (π : Type) where
  loop : EventLoop σ π
  /-- The snapshots that have reached the loop, and those over which it has begun a pass. -/
  snapshots : List Snapshot := []
  begun : List Snapshot := []
  /-- The results of the passes that are over. -/
  ended : List (Except Failure Unit) := []
  /-- The watch faults that have reached the loop, and those that it has received. -/
  faults : List WatchFault := []
  received : List WatchFault := []

inductive ChronicleEvent
  | loop (event : LoopEvent)
  /-- An error that is being sent finds that the loop has ended, and is dropped. -/
  | drop (position : Nat)

/-- Whether an event is one of the loop's own: no arrival, and not its end. -/
def LoopEvent.isOwn : LoopEvent → Bool
  | snapshotArrives _ | watchFaultArrives _ | stop => false
  | takeSnapshot | takeWatchFault | enqueue _ | handleError | advance => true

section

variable {Call : Type} {Reply : Call → Type} {σ : Type}

abbrev PassChronicle (Reply : Call → Type) (σ : Type) :=
  Chronicle σ (Program Reply (Except Failure Unit))

def EventLoop.result? (loop : EventLoop σ (Program Reply (Except Failure Unit))) :
    Option (Except Failure Unit) :=
  match loop.running with
  | some (.done result) => some result
  | _ => none

theorem EventLoop.workload_eq_zero {π : Type} {loop : EventLoop σ π} (none : loop.workload = 0) :
    loop.snapshots = [] ∧ loop.running = Option.none ∧ loop.watchFaults = [] ∧ loop.sending = [] ∧
      loop.queue = [] := by
  simp only [workload] at none
  refine ⟨?_, ?_, ?_, ?_, ?_⟩
  · exact List.length_eq_zero_iff.1 (by omega)
  · exact Option.toList_eq_nil_iff.1 (List.length_eq_zero_iff.1 (by omega))
  · exact List.length_eq_zero_iff.1 (by omega)
  · exact List.length_eq_zero_iff.1 (by omega)
  · exact List.length_eq_zero_iff.1 (by omega)

namespace Chronicle

def start {π : Type} (capacity : Nat) (world : σ) : Chronicle σ π where
  loop := .start capacity world

def record (chronicle : PassChronicle Reply σ) : LoopEvent → PassChronicle Reply σ
  | .snapshotArrives snapshot =>
    { chronicle with snapshots := chronicle.snapshots ++ [snapshot] }
  | .watchFaultArrives fault => { chronicle with faults := chronicle.faults ++ [fault] }
  | .takeSnapshot =>
    { chronicle with begun := chronicle.begun ++ chronicle.loop.snapshots.take 1 }
  | .takeWatchFault =>
    { chronicle with received := chronicle.received ++ chronicle.loop.watchFaults.take 1 }
  | .advance => { chronicle with ended := chronicle.ended ++ chronicle.loop.result?.toList }
  | .enqueue _ | .handleError | .stop => chronicle

variable (pass : Snapshot → Program Reply (Except Failure Unit)) (handle : Handler Reply σ)

def step? (chronicle : PassChronicle Reply σ) : ChronicleEvent → Option (PassChronicle Reply σ)
  | .loop event =>
    (chronicle.loop.step? pass handle event).map fun loop => { chronicle.record event with loop }
  | .drop position =>
    if chronicle.loop.stopped then
      some { chronicle with loop.sending := chronicle.loop.sending.eraseIdx position }
    else none

def run? (chronicle : PassChronicle Reply σ) :
    List ChronicleEvent → Option (PassChronicle Reply σ)
  | [] => some chronicle
  | event :: events => (chronicle.step? pass handle event).bind fun next => next.run? events

inductive Steps (chronicle : PassChronicle Reply σ) : PassChronicle Reply σ → Prop
  | snapshotArrives (snapshot : Snapshot) : chronicle.loop.stopped = false →
      Steps chronicle { chronicle with
        loop.snapshots := chronicle.loop.snapshots ++ [snapshot]
        snapshots := chronicle.snapshots ++ [snapshot] }
  | watchFaultArrives (fault : WatchFault) : chronicle.loop.stopped = false →
      Steps chronicle { chronicle with
        loop.watchFaults := chronicle.loop.watchFaults ++ [fault]
        faults := chronicle.faults ++ [fault] }
  | takeSnapshot {snapshot : Snapshot} {snapshots : List Snapshot} :
      chronicle.loop.stopped = false → chronicle.loop.running = none →
      chronicle.loop.snapshots = snapshot :: snapshots →
      Steps chronicle { chronicle with
        loop.snapshots := snapshots
        loop.running := some (pass snapshot)
        begun := chronicle.begun ++ [snapshot] }
  | takeWatchFault {fault : WatchFault} {faults : List WatchFault} :
      chronicle.loop.stopped = false → chronicle.loop.watchFaults = fault :: faults →
      Steps chronicle { chronicle with
        loop.watchFaults := faults
        loop.sending := chronicle.loop.sending ++ [watcherError fault]
        received := chronicle.received ++ [fault] }
  | enqueue {position : Nat} {error : LoopError} :
      chronicle.loop.stopped = false → chronicle.loop.sending[position]? = some error →
      chronicle.loop.queue.length < chronicle.loop.capacity →
      Steps chronicle { chronicle with
        loop.sending := chronicle.loop.sending.eraseIdx position
        loop.queue := chronicle.loop.queue ++ [error] }
  | handleError {error : LoopError} {queue : List LoopError} :
      chronicle.loop.stopped = false → chronicle.loop.queue = error :: queue →
      Steps chronicle { chronicle with
        loop.queue := queue
        loop.handled := chronicle.loop.handled ++ [error] }
  | call {request : Call} {next : Reply request → Program Reply (Except Failure Unit)} :
      chronicle.loop.running = some (.call request next) →
      Steps chronicle { chronicle with
        loop.world := (handle request chronicle.loop.world).2
        loop.running := some (next (handle request chronicle.loop.world).1) }
  | endPass {result : Except Failure Unit} : chronicle.loop.running = some (.done result) →
      Steps chronicle { chronicle with
        loop.running := none
        loop.sending := chronicle.loop.sending ++ updateErrors result
        ended := chronicle.ended ++ [result] }
  | stop : chronicle.loop.running = none →
      Steps chronicle { chronicle with loop.stopped := true }
  | drop (position : Nat) : chronicle.loop.stopped = true →
      Steps chronicle { chronicle with
        loop.sending := chronicle.loop.sending.eraseIdx position }

variable {pass handle} {chronicle after : PassChronicle Reply σ}

theorem idle_iff {π : Type} {loop : EventLoop σ π} :
    loop.idle = true ↔ loop.running = none ∧ loop.stopped = false := by
  simp [EventLoop.idle]

theorem endPass_eq {π : Type} (loop : EventLoop σ π) (result : Except Failure Unit) :
    loop.endPass result =
      { loop with running := none, sending := loop.sending ++ updateErrors result } := by
  cases result with
  | ok value => simp [EventLoop.endPass, updateErrors, failureOf]
  | error failure => rfl

theorem steps_of_loop {event : LoopEvent}
    (stepped : chronicle.step? pass handle (.loop event) = some after) :
    chronicle.Steps pass handle after := by
  obtain ⟨loop, moved, rfl⟩ := Option.map_eq_some_iff.1 stepped
  cases event with
  | snapshotArrives snapshot =>
      simp only [EventLoop.step?, EventLoop.arriveSnapshot?] at moved
      split at moved <;> cases moved
      rename_i room
      exact .snapshotArrives snapshot (by simp at room; exact room.1)
  | watchFaultArrives fault =>
      simp only [EventLoop.step?, EventLoop.arriveWatchFault?] at moved
      split at moved <;> cases moved
      rename_i room
      exact .watchFaultArrives fault (by simp at room; exact room.1)
  | takeSnapshot =>
      simp only [EventLoop.step?, EventLoop.takeSnapshot?] at moved
      split at moved
      · cases moved
      · rename_i snapshot snapshots waiting
        split at moved <;> cases moved
        obtain ⟨idle, running⟩ := idle_iff.1 ‹_›
        simp only [record, waiting]
        exact .takeSnapshot running idle waiting
  | takeWatchFault =>
      simp only [EventLoop.step?, EventLoop.takeWatchFault?] at moved
      split at moved
      · cases moved
      · rename_i fault faults waiting
        split at moved <;> cases moved
        simp only [record, waiting]
        exact .takeWatchFault (idle_iff.1 ‹_›).2 waiting
  | enqueue position =>
      simp only [EventLoop.step?, EventLoop.enqueue?] at moved
      split at moved
      · cases moved
      · rename_i error found
        split at moved <;> cases moved
        rename_i room
        simp only [Bool.and_eq_true, Bool.not_eq_true', decide_eq_true_eq] at room
        exact .enqueue room.1 found room.2
  | handleError =>
      simp only [EventLoop.step?, EventLoop.handleError?] at moved
      split at moved
      · cases moved
      · split at moved <;> cases moved
        exact .handleError (idle_iff.1 ‹_›).2 ‹_›
  | advance =>
      simp only [EventLoop.step?, EventLoop.advance?] at moved
      split at moved
      · cases moved
      · rename_i result running
        cases moved
        simp only [record, EventLoop.result?, running, endPass_eq]
        exact .endPass running
      · rename_i request next running
        cases moved
        simp only [record, EventLoop.result?, running, Option.toList_none, List.append_nil]
        exact .call running
  | stop =>
      simp only [EventLoop.step?, EventLoop.stop?] at moved
      split at moved <;> cases moved
      exact .stop (idle_iff.1 ‹_›).1

theorem steps_of_step? {event : ChronicleEvent}
    (stepped : chronicle.step? pass handle event = some after) :
    chronicle.Steps pass handle after := by
  cases event with
  | loop event => exact steps_of_loop stepped
  | drop position =>
      simp only [step?] at stepped
      split at stepped <;> cases stepped
      exact .drop position ‹_›

theorem run?_keeps (holds : PassChronicle Reply σ → Prop)
    (kept : ∀ {before after}, before.Steps pass handle after → holds before → holds after)
    {events : List ChronicleEvent} (ran : chronicle.run? pass handle events = some after)
    (start : holds chronicle) : holds after := by
  induction events generalizing chronicle with
  | nil =>
      cases ran
      exact start
  | cons event events ih =>
      obtain ⟨next, stepped, rest⟩ := Option.bind_eq_some_iff.1 ran
      exact ih rest (kept (steps_of_step? stepped) start)

theorem run?_append {events more : List ChronicleEvent}
    (ran : chronicle.run? pass handle events = some after) :
    chronicle.run? pass handle (events ++ more) = after.run? pass handle more := by
  induction events generalizing chronicle with
  | nil =>
      cases ran
      rfl
  | cons event events ih =>
      obtain ⟨next, stepped, rest⟩ := Option.bind_eq_some_iff.1 ran
      rw [List.cons_append, run?, stepped]
      exact ih rest

/-! The events of the loop's own. -/

theorem kept_of_own {event : LoopEvent} (own : event.isOwn = true)
    (stepped : chronicle.step? pass handle (.loop event) = some after) :
    after.snapshots = chronicle.snapshots ∧ after.faults = chronicle.faults ∧
      after.loop.stopped = chronicle.loop.stopped := by
  obtain ⟨loop, moved, rfl⟩ := Option.map_eq_some_iff.1 stepped
  cases event with
  | snapshotArrives | watchFaultArrives | stop => cases own
  | takeSnapshot =>
      simp only [EventLoop.step?, EventLoop.takeSnapshot?] at moved
      split at moved
      · cases moved
      · split at moved <;> cases moved
        exact ⟨rfl, rfl, rfl⟩
  | takeWatchFault =>
      simp only [EventLoop.step?, EventLoop.takeWatchFault?] at moved
      split at moved
      · cases moved
      · split at moved <;> cases moved
        exact ⟨rfl, rfl, rfl⟩
  | enqueue position =>
      simp only [EventLoop.step?, EventLoop.enqueue?] at moved
      split at moved
      · cases moved
      · split at moved <;> cases moved
        exact ⟨rfl, rfl, rfl⟩
  | handleError =>
      simp only [EventLoop.step?, EventLoop.handleError?] at moved
      split at moved
      · cases moved
      · split at moved <;> cases moved
        exact ⟨rfl, rfl, rfl⟩
  | advance =>
      simp only [EventLoop.step?, EventLoop.advance?] at moved
      split at moved
      · cases moved
      · cases moved
        rw [endPass_eq]
        exact ⟨rfl, rfl, rfl⟩
      · cases moved
        exact ⟨rfl, rfl, rfl⟩

theorem step?_isSome {event : LoopEvent}
    (can : (chronicle.loop.step? pass handle event).isSome) :
    ∃ after, chronicle.step? pass handle (.loop event) = some after ∧
      chronicle.loop.step? pass handle event = some after.loop := by
  obtain ⟨loop, moved⟩ := Option.isSome_iff_exists.1 can
  exact ⟨{ chronicle.record event with loop }, by rw [step?, moved]; rfl, moved⟩

theorem run?_singleton (event : ChronicleEvent) :
    chronicle.run? pass handle [event] = chronicle.step? pass handle event := by
  simp [run?]

theorem kept_of_own_run {events : List LoopEvent} (own : ∀ event ∈ events, event.isOwn = true)
    (ran : chronicle.run? pass handle (events.map .loop) = some after) :
    after.snapshots = chronicle.snapshots ∧ after.faults = chronicle.faults ∧
      after.loop.stopped = chronicle.loop.stopped := by
  induction events generalizing chronicle with
  | nil =>
      cases ran
      exact ⟨rfl, rfl, rfl⟩
  | cons event events ih =>
      obtain ⟨next, stepped, rest⟩ := Option.bind_eq_some_iff.1 ran
      obtain ⟨ownFirst, ownRest⟩ := List.forall_mem_cons.1 own
      obtain ⟨snapshots, faults, stopped⟩ := kept_of_own ownFirst stepped
      obtain ⟨laterSnapshots, laterFaults, laterStopped⟩ := ih ownRest rest
      exact ⟨laterSnapshots.trans snapshots, laterFaults.trans faults, laterStopped.trans stopped⟩

end Chronicle

end

end GatewayControl
