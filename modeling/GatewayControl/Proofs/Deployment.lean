import GatewayControl.EventLoop
import GatewayControl.Proofs.Site
import GatewayControl.Watch.Poller

/-!
A deployment: a store in memory, clients that call it, a poller that observes it, and an event loop
that runs passes on it. Their calls are interleaved one by one. So an observation can be torn by a
write between its two lists, and a pass can meet a store that differs from its snapshot.
-/

namespace GatewayControl

def Poller.cutOff (poller : Poller) : Poller :=
  { poller with snapshotsOpen := false, faultsOpen := false }

/-- A snapshot that is observed is sent and remembered, or neither. -/
theorem Poller.observe_cases (poller : Poller) (observation : Except StorageFault Snapshot) :
    let observed := poller.observe observation
    observed.2.snapshotsOpen = poller.snapshotsOpen ∧
      ((∃ snapshot, observation = .ok snapshot ∧ observed.1 = some (.snapshot snapshot) ∧
          observed.2.observer.delivered = some snapshot) ∨
        ((∀ snapshot, observed.1 ≠ some (.snapshot snapshot)) ∧
          (poller.snapshotsOpen → observed.2.observer.delivered = poller.observer.delivered))) := by
  cases observation with
  | error fault =>
      simp only [observe, Observer.observe]
      by_cases accepted : poller.accepts (.fault (.load fault))
      · simp [accepted]
      · simp [accepted, stop]
  | ok snapshot =>
      by_cases known : poller.observer.delivered = some snapshot
      · simp [observe, Observer.observe, known]
      · by_cases opened : poller.snapshotsOpen
        · simp [observe, Observer.observe, known, accepts, opened]
        · simp [observe, Observer.observe, known, accepts, opened, stop]

/-- A deployment between two events. The loop's world holds the store. -/
structure Deployment (ω : Type) where
  loop : EventLoop (Site ω) (WorldProgram (Except Failure Unit))
  poller : Poller := {}
  /-- What is left of the observation that the poller is making. -/
  reading : Option (StoreProgram (Except StorageFault Snapshot)) := none
  /-- What the poller waits to hand to the loop. -/
  sending : Option Delivery := none
  /-- The snapshots that have reached the loop, in their order. -/
  delivered : List Snapshot := []
  /-- The snapshots over which a pass was begun, in their order. -/
  passes : List Snapshot := []
  /-- Whether a call of the last pass failed without reaching the store. -/
  disturbed : Bool := false

inductive DeploymentEvent
  | client (call : StoreCall)
  | tick
  /-- The poller makes the next call of its observation. -/
  | read
  | failRead (fault : StorageFault)
  /-- The poller compares what it has observed with what it delivered before. -/
  | observe
  /-- What is being sent finds its receiver gone. -/
  | refuse
  | stopPolling
  | loop (event : LoopEvent)
  /-- The next call of the running pass is one of the store, and fails without reaching it. -/
  | failCall (fault : StorageFault)

namespace Deployment

variable {ω : Type}

def start (capacity : Nat) (store : MemoryStore) (state : ω) : Deployment ω where
  loop := .start capacity { store, operator := state }

def store (deployment : Deployment ω) : MemoryStore := deployment.loop.world.store

def pollerWaits (deployment : Deployment ω) : Bool :=
  deployment.poller.running && deployment.reading.isNone && deployment.sending.isNone

def request (deployment : Deployment ω) (call : StoreCall) : Deployment ω :=
  { deployment with loop.world.store := (MemoryStore.handle call deployment.store).2 }

def tick? (deployment : Deployment ω) : Option (Deployment ω) :=
  if deployment.pollerWaits then some { deployment with reading := some readSnapshot } else none

def read? (deployment : Deployment ω) : Option (Deployment ω) :=
  match deployment.reading with
  | some (.call request next) =>
    some { deployment.request request with
      reading := some (next (MemoryStore.handle request deployment.store).1) }
  | _ => none

def failRead? (deployment : Deployment ω) (fault : StorageFault) : Option (Deployment ω) :=
  match deployment.reading with
  | some (.call _ next) => some { deployment with reading := some (next (.error fault)) }
  | _ => none

def finishRead? (deployment : Deployment ω) : Option (Deployment ω) :=
  match deployment.reading with
  | some (.done observation) =>
    let (sending, poller) := deployment.poller.observe observation
    some { deployment with reading := none, sending, poller }
  | _ => none

def refuse? (deployment : Deployment ω) : Option (Deployment ω) :=
  match deployment.sending with
  | none => none
  | some delivery =>
    if deployment.poller.accepts delivery then none
    else some { deployment with sending := none, poller := deployment.poller.stop }

def stopPolling? (deployment : Deployment ω) : Option (Deployment ω) :=
  if deployment.pollerWaits then some { deployment with poller := deployment.poller.stop } else none

def failCall? (deployment : Deployment ω) (fault : StorageFault) : Option (Deployment ω) :=
  match deployment.loop.running with
  | some (.call (.store _) next) =>
    some { deployment with loop.running := some (next (.error fault)), disturbed := true }
  | _ => none

/-- What an event of the loop means for the rest. Only what the poller is sending arrives, and the
receivers are closed when the loop ends. -/
def follow? (deployment : Deployment ω) : LoopEvent → Option (Deployment ω)
  | .snapshotArrives snapshot =>
    if deployment.sending = some (.snapshot snapshot) then
      some { deployment with sending := none, delivered := deployment.delivered ++ [snapshot] }
    else none
  | .watchFaultArrives fault =>
    if deployment.sending = some (.fault fault) then some { deployment with sending := none } else none
  | .takeSnapshot =>
    some { deployment with
      passes := deployment.passes ++ deployment.loop.snapshots.take 1
      disturbed := false }
  | .stop => some { deployment with poller := deployment.poller.cutOff }
  | _ => some deployment

variable (operator : OperatorHandler ω) (proxy : Proxy)

def stepLoop? (deployment : Deployment ω) (event : LoopEvent) : Option (Deployment ω) := do
  let after ← deployment.follow? event
  let loop ← deployment.loop.step? (passCalls proxy) (Site.handle operator) event
  some { after with loop }

def step? (deployment : Deployment ω) : DeploymentEvent → Option (Deployment ω)
  | .client call => some (deployment.request call)
  | .tick => deployment.tick?
  | .read => deployment.read?
  | .failRead fault => deployment.failRead? fault
  | .observe => deployment.finishRead?
  | .refuse => deployment.refuse?
  | .stopPolling => deployment.stopPolling?
  | .loop event => deployment.stepLoop? operator proxy event
  | .failCall fault => deployment.failCall? fault

def run? (deployment : Deployment ω) : List DeploymentEvent → Option (Deployment ω)
  | [] => some deployment
  | event :: events => (deployment.step? operator proxy event).bind fun next => next.run? events

end Deployment

/-- Whether an event of a loop had to do with errors, or with its end, only. -/
structure EventLoop.SamePasses {σ π : Type} (before after : EventLoop σ π) : Prop where
  world : after.world = before.world
  snapshots : after.snapshots = before.snapshots
  running : after.running = before.running

namespace Deployment

section

variable {ω : Type} {operator : OperatorHandler ω} {proxy : Proxy} {deployment after : Deployment ω}

inductive Steps (operator : OperatorHandler ω) (proxy : Proxy) (deployment : Deployment ω) :
    Deployment ω → Prop
  | request (call : StoreCall) : Steps operator proxy deployment (deployment.request call)
  | tick : deployment.pollerWaits →
      Steps operator proxy deployment { deployment with reading := some readSnapshot }
  | read {request : StoreCall}
      {next : request.Reply → StoreProgram (Except StorageFault Snapshot)} :
      deployment.reading = some (.call request next) →
      Steps operator proxy deployment { deployment.request request with
        reading := some (next (MemoryStore.handle request deployment.store).1) }
  | failRead {request : StoreCall}
      {next : request.Reply → StoreProgram (Except StorageFault Snapshot)} (fault : StorageFault) :
      deployment.reading = some (.call request next) →
      Steps operator proxy deployment { deployment with reading := some (next (.error fault)) }
  | observe {observation : Except StorageFault Snapshot} :
      deployment.reading = some (.done observation) →
      Steps operator proxy deployment { deployment with
        reading := none
        sending := (deployment.poller.observe observation).1
        poller := (deployment.poller.observe observation).2 }
  | refuse {delivery : Delivery} : deployment.sending = some delivery →
      ¬deployment.poller.accepts delivery →
      Steps operator proxy deployment { deployment with
        sending := none
        poller := deployment.poller.stop }
  | stopPolling :
      Steps operator proxy deployment { deployment with poller := deployment.poller.stop }
  | snapshotArrives {snapshot : Snapshot} : deployment.sending = some (.snapshot snapshot) →
      Steps operator proxy deployment { deployment with
        loop.snapshots := deployment.loop.snapshots ++ [snapshot]
        sending := none
        delivered := deployment.delivered ++ [snapshot] }
  | faultArrives {fault : WatchFault} {loop : EventLoop (Site ω) (WorldProgram (Except Failure Unit))} :
      deployment.sending = some (.fault fault) → deployment.loop.SamePasses loop →
      Steps operator proxy deployment { deployment with loop, sending := none }
  | takeSnapshot {snapshot : Snapshot} {snapshots : List Snapshot} :
      deployment.loop.snapshots = snapshot :: snapshots →
      Steps operator proxy deployment { deployment with
        loop.snapshots := snapshots
        loop.running := some (passCalls proxy snapshot)
        passes := deployment.passes ++ [snapshot]
        disturbed := false }
  | call {request : WorldCall} {next : request.Reply → WorldProgram (Except Failure Unit)} :
      deployment.loop.running = some (.call request next) →
      Steps operator proxy deployment { deployment with
        loop.world := (Site.handle operator request deployment.loop.world).2
        loop.running := some (next (Site.handle operator request deployment.loop.world).1) }
  | failCall {call : StoreCall} {next : call.Reply → WorldProgram (Except Failure Unit)}
      (fault : StorageFault) : deployment.loop.running = some (.call (.store call) next) →
      Steps operator proxy deployment { deployment with
        loop.running := some (next (.error fault))
        disturbed := true }
  | endPass {result : Except Failure Unit} : deployment.loop.running = some (.done result) →
      Steps operator proxy deployment { deployment with loop := deployment.loop.endPass result }
  | aside {loop : EventLoop (Site ω) (WorldProgram (Except Failure Unit))} :
      deployment.loop.SamePasses loop → Steps operator proxy deployment { deployment with loop }
  | stop {loop : EventLoop (Site ω) (WorldProgram (Except Failure Unit))} :
      deployment.loop.SamePasses loop →
      Steps operator proxy deployment { deployment with loop, poller := deployment.poller.cutOff }

theorem steps_of_stepLoop? {event : LoopEvent}
    (stepped : deployment.stepLoop? operator proxy event = some after) :
    deployment.Steps operator proxy after := by
  obtain ⟨followed, follows, loop, moved, rfl⟩ : ∃ followed,
      deployment.follow? event = some followed ∧
        ∃ loop, deployment.loop.step? (passCalls proxy) (Site.handle operator) event = some loop ∧
          { followed with loop } = after := by
    simpa [stepLoop?, Option.bind_eq_some_iff] using stepped
  cases event with
  | snapshotArrives snapshot =>
      simp only [follow?, EventLoop.step?, EventLoop.arriveSnapshot?] at follows moved
      split at follows <;> cases follows
      split at moved <;> cases moved
      exact .snapshotArrives ‹_›
  | watchFaultArrives fault =>
      simp only [follow?, EventLoop.step?, EventLoop.arriveWatchFault?] at follows moved
      split at follows <;> cases follows
      split at moved <;> cases moved
      exact .faultArrives ‹_› ⟨rfl, rfl, rfl⟩
  | takeSnapshot =>
      simp only [follow?, EventLoop.step?, EventLoop.takeSnapshot?] at follows moved
      cases follows
      split at moved
      · cases moved
      · rename_i snapshot snapshots waiting
        split at moved <;> cases moved
        rw [waiting]
        exact .takeSnapshot waiting
  | takeWatchFault =>
      simp only [follow?, EventLoop.step?, EventLoop.takeWatchFault?] at follows moved
      cases follows
      split at moved
      · cases moved
      · split at moved <;> cases moved
        exact .aside ⟨rfl, rfl, rfl⟩
  | enqueue position =>
      simp only [follow?, EventLoop.step?, EventLoop.enqueue?] at follows moved
      cases follows
      split at moved
      · cases moved
      · split at moved <;> cases moved
        exact .aside ⟨rfl, rfl, rfl⟩
  | handleError =>
      simp only [follow?, EventLoop.step?, EventLoop.handleError?] at follows moved
      cases follows
      split at moved
      · cases moved
      · split at moved <;> cases moved
        exact .aside ⟨rfl, rfl, rfl⟩
  | advance =>
      simp only [follow?, EventLoop.step?, EventLoop.advance?] at follows moved
      cases follows
      split at moved
      · cases moved
      · cases moved
        exact .endPass ‹_›
      · cases moved
        exact .call ‹_›
  | stop =>
      simp only [follow?, EventLoop.step?, EventLoop.stop?] at follows moved
      cases follows
      split at moved <;> cases moved
      exact .stop ⟨rfl, rfl, rfl⟩

theorem steps_of_step? {event : DeploymentEvent}
    (stepped : deployment.step? operator proxy event = some after) :
    deployment.Steps operator proxy after := by
  cases event with
  | client call =>
      cases stepped
      exact .request call
  | tick =>
      simp only [step?, tick?] at stepped
      split at stepped <;> cases stepped
      exact .tick ‹_›
  | read =>
      simp only [step?, read?] at stepped
      split at stepped <;> cases stepped
      exact .read ‹_›
  | failRead fault =>
      simp only [step?, failRead?] at stepped
      split at stepped <;> cases stepped
      exact .failRead fault ‹_›
  | observe =>
      simp only [step?, finishRead?] at stepped
      split at stepped <;> cases stepped
      exact .observe ‹_›
  | refuse =>
      simp only [step?, refuse?] at stepped
      split at stepped
      · cases stepped
      · split at stepped <;> cases stepped
        exact .refuse ‹_› ‹_›
  | stopPolling =>
      simp only [step?, stopPolling?] at stepped
      split at stepped <;> cases stepped
      exact .stopPolling
  | loop event => exact steps_of_stepLoop? stepped
  | failCall fault =>
      simp only [step?, failCall?] at stepped
      split at stepped <;> cases stepped
      exact .failCall fault ‹_›

theorem run?_keeps (holds : Nat → Deployment ω → Prop)
    (kept : ∀ {count before after}, before.Steps operator proxy after → holds count before →
      holds (count + 1) after)
    {events : List DeploymentEvent} (ran : deployment.run? operator proxy events = some after)
    (count : Nat) (start : holds count deployment) : holds (count + events.length) after := by
  induction events generalizing deployment count with
  | nil =>
      cases ran
      exact start
  | cons event events ih =>
      obtain ⟨next, stepped, rest⟩ := Option.bind_eq_some_iff.1 ran
      have later := ih rest (count + 1) (kept (steps_of_step? stepped) start)
      rwa [Nat.add_right_comm] at later

/-! Without anything in between, ticks and passes are those of the poller and the loop alone. -/

theorem run?_tick (waits : deployment.pollerWaits) :
    deployment.run? operator proxy [.tick, .read, .read, .observe] =
      let ((sending, poller), store) := deployment.poller.tick MemoryStore.handle deployment.store
      some { deployment with loop.world.store := store, poller, sending } := by
  obtain ⟨loop, ⟨observer, snapshotsOpen, faultsOpen, polls⟩, reading, sending, delivered, passes,
    disturbed⟩ := deployment
  simp only [pollerWaits, Bool.and_eq_true, Option.isNone_iff_eq_none] at waits
  obtain ⟨⟨rfl, rfl⟩, rfl⟩ := waits
  rfl

theorem run?_advance {program : WorldProgram (Except Failure Unit)}
    (running : deployment.loop.running = some program) :
    ∃ finished, deployment.loop.finishPass? (Site.handle operator) = some finished ∧
      deployment.run? operator proxy (List.replicate
        ((program.steps (Site.handle operator) deployment.loop.world).length + 1) (.loop .advance)) =
      some { deployment with loop := finished } := by
  induction program generalizing deployment with
  | done result =>
      refine ⟨deployment.loop.endPass result, ?_, ?_⟩
      · simp only [EventLoop.finishPass?, running, Program.run_done]
        cases result <;> rfl
      · simp [run?, step?, stepLoop?, follow?, EventLoop.step?, EventLoop.advance?, running]
  | call request next ih =>
      cases handled : Site.handle operator request deployment.loop.world with
      | mk reply world =>
          obtain ⟨finished, finishes, rest⟩ :=
            @ih reply { deployment with loop.world := world, loop.running := some (next reply) } rfl
          refine ⟨finished, ?_, ?_⟩
          · simp only [EventLoop.finishPass?, running, Program.run_call, handled] at finishes ⊢
            rw [← finishes]
            cases ((next reply).run (Site.handle operator) world).1 <;> rfl
          · rw [Program.steps_call, handled, List.length_cons, List.replicate_succ, ← rest]
            simp [run?, step?, stepLoop?, follow?, EventLoop.step?, EventLoop.advance?, running, handled]

/-! What the poller remembers is what it has delivered. -/

/-- The last snapshot that has reached the loop or is on its way to it. -/
def handedOver (deployment : Deployment ω) : Option Snapshot :=
  match deployment.sending with
  | some (.snapshot snapshot) => some snapshot
  | _ => deployment.delivered.getLast?

theorem handedOver_of_unsent (unsent : ∀ snapshot, deployment.sending ≠ some (.snapshot snapshot)) :
    deployment.handedOver = deployment.delivered.getLast? := by
  rw [handedOver]
  split
  · exact absurd ‹_› (unsent _)
  · rfl

structure Remembers (deployment : Deployment ω) : Prop where
  exclusive : deployment.reading.isSome → deployment.sending = none
  remembered : deployment.poller.snapshotsOpen → deployment.poller.observer.delivered =
    deployment.handedOver

namespace Remembers

theorem start (capacity : Nat) (store : MemoryStore) (state : ω) :
    (Deployment.start capacity store state).Remembers :=
  ⟨fun _ => rfl, fun _ => rfl⟩

theorem observe (remembers : deployment.Remembers) {observation : Except StorageFault Snapshot}
    (reading : deployment.reading = some (.done observation)) :
    { deployment with
      reading := none
      sending := (deployment.poller.observe observation).1
      poller := (deployment.poller.observe observation).2 }.Remembers := by
  have nothing : deployment.sending = none := remembers.exclusive (by rw [reading]; rfl)
  have remembered := remembers.remembered
  rw [handedOver_of_unsent (by simp [nothing])] at remembered
  obtain ⟨same, outcome⟩ := deployment.poller.observe_cases observation
  refine ⟨by simp, fun opened => ?_⟩
  replace opened : deployment.poller.snapshotsOpen := same ▸ opened
  rcases outcome with ⟨snapshot, -, sent, now⟩ | ⟨unsent, kept⟩
  · rw [handedOver, sent]
    exact now
  · rw [handedOver_of_unsent unsent]
    exact (kept opened).trans (remembered opened)

theorem step (remembers : deployment.Remembers) (steps : deployment.Steps operator proxy after) :
    after.Remembers := by
  cases steps with
  | request | stopPolling | takeSnapshot | call | failCall | endPass | aside =>
      exact ⟨remembers.exclusive, remembers.remembered⟩
  | tick waits =>
      simp only [pollerWaits, Bool.and_eq_true, Option.isNone_iff_eq_none] at waits
      exact ⟨fun _ => waits.2, remembers.remembered⟩
  | read reading | failRead _ reading =>
      exact ⟨fun _ => remembers.exclusive (by rw [reading]; rfl), remembers.remembered⟩
  | observe reading => exact remembers.observe reading
  | @refuse delivery sent refused =>
      refine ⟨fun _ => rfl, fun opened => ?_⟩
      cases delivery with
      | snapshot snapshot => exact absurd opened refused
      | fault fault => exact (remembers.remembered opened).trans (by simp [handedOver, sent])
  | snapshotArrives sent | faultArrives sent _ =>
      refine ⟨fun _ => rfl, fun opened => (remembers.remembered opened).trans ?_⟩
      simp [handedOver, sent]
  | stop => exact ⟨remembers.exclusive, by simp [Poller.cutOff]⟩

end Remembers

/-- Once nothing is being sent, what the poller remembers is the last snapshot that has arrived,
unless nobody receives snapshots any more. -/
theorem remembered_eq_delivered (capacity : Nat) (store : MemoryStore) (state : ω)
    {events : List DeploymentEvent}
    (ran : (start capacity store state).run? operator proxy events = some deployment)
    (opened : deployment.poller.snapshotsOpen)
    (unsent : ∀ snapshot, deployment.sending ≠ some (.snapshot snapshot)) :
    deployment.poller.observer.delivered = deployment.delivered.getLast? := by
  have remembers : deployment.Remembers :=
    run?_keeps (fun _ deployment => deployment.Remembers)
      (fun steps remembers => remembers.step steps) ran 0 (Remembers.start capacity store state)
  exact (remembers.remembered opened).trans (handedOver_of_unsent unsent)

end

end Deployment

end GatewayControl
