import GatewayControl.Proofs.Chronicle
import GatewayControl.Proofs.Recovery
import Mathlib.Data.List.Perm.Basic

/-!
The books of an event loop. Its passes are made one after the other, as if nothing else happened.
Every error that comes up is on its way to the queue, in the queue, or handled. As long as the loop
has not ended, whatever waits can go on.
-/

namespace GatewayControl

section

variable {Call : Type} {Reply : Call → Type} {σ : Type}

/-- The passes of a loop that began in a world: they are made in the order of their snapshots, each
on what the one before it has left, and all but the last one are over. -/
inductive InTurn (pass : Snapshot → Program Reply (Except Failure Unit)) (handle : Handler Reply σ)
    (world : σ) : List Snapshot → List (Except Failure Unit) →
      Option (Program Reply (Except Failure Unit)) → σ → Prop
  | idle {begun : List Snapshot} {ended : List (Except Failure Unit)} {point : σ} :
      (begun.mapM pass).run handle world = (ended, point) →
      InTurn pass handle world begun ended none point
  | busy {earlier : List Snapshot} {ended : List (Except Failure Unit)} {between : σ}
      (snapshot : Snapshot) {left : Program Reply (Except Failure Unit)} {point : σ} :
      (earlier.mapM pass).run handle world = (ended, between) →
      Program.Reaches handle (pass snapshot) between left point →
      InTurn pass handle world (earlier ++ [snapshot]) ended (some left) point

/-- Whether what waits for a loop can go on. A pass makes its next call or ends; if none is running,
then what is there to be taken can be taken; and an error gets into the queue, unless errors that
can be handled are in its way. -/
structure EventLoop.Unblocked (pass : Snapshot → Program Reply (Except Failure Unit))
    (handle : Handler Reply σ) (loop : EventLoop σ (Program Reply (Except Failure Unit))) :
    Prop where
  advances : loop.running ≠ none → (loop.step? pass handle .advance).isSome
  takesSnapshot : loop.running = none → loop.snapshots ≠ [] →
    (loop.step? pass handle .takeSnapshot).isSome
  takesWatchFault : loop.running = none → loop.watchFaults ≠ [] →
    (loop.step? pass handle .takeWatchFault).isSome
  handlesError : loop.running = none → loop.queue ≠ [] →
    (loop.step? pass handle .handleError).isSome
  enqueues : ∀ position < loop.sending.length,
    (loop.step? pass handle (.enqueue position)).isSome ∨ loop.queue ≠ []

namespace Chronicle

variable {pass : Snapshot → Program Reply (Except Failure Unit)} {handle : Handler Reply σ}
  {chronicle after : PassChronicle Reply σ}

structure Accounted (pass : Snapshot → Program Reply (Except Failure Unit))
    (handle : Handler Reply σ) (world : σ) (chronicle : PassChronicle Reply σ) : Prop where
  room : 0 < chronicle.loop.capacity
  bounded : chronicle.loop.queue.length ≤ chronicle.loop.capacity
  errors : chronicle.loop.stopped = false →
    (chronicle.received.map watcherError ++ chronicle.ended.flatMap updateErrors).Perm
      (chronicle.loop.handled ++ chronicle.loop.queue ++ chronicle.loop.sending)
  snapshots : chronicle.snapshots = chronicle.begun ++ chronicle.loop.snapshots
  faults : chronicle.faults = chronicle.received ++ chronicle.loop.watchFaults
  passes : InTurn pass handle world chronicle.begun chronicle.ended chronicle.loop.running
    chronicle.loop.world
  finished : chronicle.loop.stopped = true → chronicle.loop.running = none

namespace Accounted

variable {world : σ}

theorem start (capacity : Nat) (world : σ) :
    (Chronicle.start capacity world).Accounted pass handle world where
  room := Nat.lt_of_lt_of_le Nat.one_pos (Nat.le_max_right capacity 1)
  bounded := Nat.zero_le _
  errors _ := .nil
  snapshots := rfl
  faults := rfl
  passes := .idle rfl
  finished _ := rfl

theorem takeSnapshot (accounted : chronicle.Accounted pass handle world) {snapshot : Snapshot}
    {snapshots : List Snapshot} (running : chronicle.loop.stopped = false)
    (idle : chronicle.loop.running = none)
    (waiting : chronicle.loop.snapshots = snapshot :: snapshots) :
    { chronicle with
      loop.snapshots := snapshots
      loop.running := some (pass snapshot)
      begun := chronicle.begun ++ [snapshot] }.Accounted pass handle world := by
  have passes := accounted.passes
  rw [idle] at passes
  refine { accounted with snapshots := ?_, passes := ?_, finished := ?_ }
  · simp [accounted.snapshots, waiting]
  · generalize chronicle.begun = begun at passes
    cases passes with
    | idle ran => exact .busy snapshot ran .start
  · intro stopped
    cases running.symm.trans stopped

theorem call (accounted : chronicle.Accounted pass handle world) {request : Call}
    {next : Reply request → Program Reply (Except Failure Unit)}
    (running : chronicle.loop.running = some (.call request next)) :
    { chronicle with
      loop.world := (handle request chronicle.loop.world).2
      loop.running := some (next (handle request chronicle.loop.world).1) }.Accounted pass handle
        world := by
  have passes := accounted.passes
  rw [running] at passes
  refine { accounted with passes := ?_, finished := ?_ }
  · generalize chronicle.begun = begun at passes
    cases passes with
    | busy snapshot ran reaches => exact .busy snapshot ran reaches.call
  · intro stopped
    cases running.symm.trans (accounted.finished stopped)

theorem endPass (accounted : chronicle.Accounted pass handle world) {result : Except Failure Unit}
    (running : chronicle.loop.running = some (.done result)) :
    { chronicle with
      loop.running := none
      loop.sending := chronicle.loop.sending ++ updateErrors result
      ended := chronicle.ended ++ [result] }.Accounted pass handle world := by
  have passes := accounted.passes
  rw [running] at passes
  refine { accounted with errors := ?_, passes := ?_, finished := fun _ => rfl }
  · intro going
    simp only [List.flatMap_append, List.flatMap_singleton, ← List.append_assoc]
    exact (accounted.errors going).append_right _
  · generalize chronicle.begun = begun at passes
    cases passes with
    | busy snapshot ran reaches =>
        apply InTurn.idle
        rw [Program.run_mapM_concat, ran]
        simp only [← reaches.run_eq, Program.run_done]

theorem takeWatchFault (accounted : chronicle.Accounted pass handle world) {fault : WatchFault}
    {faults : List WatchFault} (running : chronicle.loop.stopped = false)
    (waiting : chronicle.loop.watchFaults = fault :: faults) :
    { chronicle with
      loop.watchFaults := faults
      loop.sending := chronicle.loop.sending ++ [watcherError fault]
      received := chronicle.received ++ [fault] }.Accounted pass handle world := by
  refine { accounted with errors := ?_, faults := ?_ }
  · have moved : (chronicle.received.map watcherError ++ [watcherError fault] ++
        chronicle.ended.flatMap updateErrors).Perm (chronicle.received.map watcherError ++
          chronicle.ended.flatMap updateErrors ++ [watcherError fault]) := by
      rw [List.append_assoc, List.append_assoc]
      exact List.perm_append_comm.append_left _
    intro _
    rw [List.map_append, ← List.append_assoc]
    exact moved.trans ((accounted.errors running).append_right _)
  · simp [accounted.faults, waiting]

theorem enqueue (accounted : chronicle.Accounted pass handle world) {position : Nat}
    {error : LoopError} (running : chronicle.loop.stopped = false)
    (found : chronicle.loop.sending[position]? = some error)
    (room : chronicle.loop.queue.length < chronicle.loop.capacity) :
    { chronicle with
      loop.sending := chronicle.loop.sending.eraseIdx position
      loop.queue := chronicle.loop.queue ++ [error] }.Accounted pass handle world := by
  refine { accounted with bounded := ?_, errors := ?_ }
  · rw [List.length_append]
    exact room
  · intro _
    obtain ⟨bound, rfl⟩ := List.getElem?_eq_some_iff.1 found
    refine (accounted.errors running).trans ?_
    simp only [List.append_assoc, List.singleton_append]
    refine List.Perm.append_left _ (List.Perm.append_left _ ?_)
    exact (List.getElem_cons_eraseIdx_perm bound).symm

theorem handleError (accounted : chronicle.Accounted pass handle world) {error : LoopError}
    {queue : List LoopError} (running : chronicle.loop.stopped = false)
    (waiting : chronicle.loop.queue = error :: queue) :
    { chronicle with
      loop.queue := queue
      loop.handled := chronicle.loop.handled ++ [error] }.Accounted pass handle world := by
  refine { accounted with bounded := ?_, errors := ?_ }
  · have bounded := accounted.bounded
    rw [waiting, List.length_cons] at bounded
    exact Nat.le_of_succ_le bounded
  · intro _
    have errors := accounted.errors running
    rw [waiting] at errors
    simpa using errors

theorem step (accounted : chronicle.Accounted pass handle world)
    (steps : chronicle.Steps pass handle after) : after.Accounted pass handle world := by
  cases steps with
  | snapshotArrives snapshot =>
      refine { accounted with snapshots := ?_ }
      simp [accounted.snapshots]
  | watchFaultArrives fault =>
      refine { accounted with faults := ?_ }
      simp [accounted.faults]
  | takeSnapshot running idle waiting => exact accounted.takeSnapshot running idle waiting
  | takeWatchFault running waiting => exact accounted.takeWatchFault running waiting
  | enqueue running found room => exact accounted.enqueue running found room
  | handleError running waiting => exact accounted.handleError running waiting
  | call running => exact accounted.call running
  | endPass running => exact accounted.endPass running
  | stop idle =>
      refine { accounted with errors := ?_, finished := fun _ => idle }
      intro going
      cases going
  | drop position stopped =>
      refine { accounted with errors := ?_ }
      intro going
      cases stopped.symm.trans going

end Accounted

/-! Going on, and coming to an end. -/

theorem Accounted.unblocked {world : σ} (accounted : chronicle.Accounted pass handle world)
    (going : chronicle.loop.stopped = false) : chronicle.loop.Unblocked pass handle := by
  constructor
  · intro running
    simp only [EventLoop.step?, EventLoop.advance?]
    split
    · exact absurd ‹_› running
    · rfl
    · rfl
  · intro idle waiting
    obtain ⟨snapshot, snapshots, waiting⟩ := List.exists_cons_of_ne_nil waiting
    simp [EventLoop.step?, EventLoop.takeSnapshot?, waiting, idle_iff.2 ⟨idle, going⟩]
  · intro idle waiting
    obtain ⟨fault, faults, waiting⟩ := List.exists_cons_of_ne_nil waiting
    simp [EventLoop.step?, EventLoop.takeWatchFault?, waiting, idle_iff.2 ⟨idle, going⟩]
  · intro idle waiting
    obtain ⟨error, queue, waiting⟩ := List.exists_cons_of_ne_nil waiting
    simp [EventLoop.step?, EventLoop.handleError?, waiting, idle_iff.2 ⟨idle, going⟩]
  · intro position bound
    by_cases empty : chronicle.loop.queue = []
    · left
      have room := accounted.room
      simp [EventLoop.step?, EventLoop.enqueue?, bound, going, empty, room]
    · exact .inr empty

theorem finishes (pass : Snapshot → Program Reply (Except Failure Unit)) (handle : Handler Reply σ)
    {program : Program Reply (Except Failure Unit)}
    (running : chronicle.loop.running = some program) :
    ∃ count after, chronicle.run? pass handle
        (List.replicate count (.loop .advance)) = some after ∧
      after.loop.workload < chronicle.loop.workload := by
  induction program generalizing chronicle with
  | done result =>
      have can : (chronicle.loop.step? pass handle .advance).isSome := by
        simp [EventLoop.step?, EventLoop.advance?, running]
      obtain ⟨after, stepped, moved⟩ := step?_isSome can
      refine ⟨1, after, (run?_singleton _).trans stepped, ?_⟩
      simp only [EventLoop.step?, EventLoop.advance?, running, Option.some.injEq] at moved
      have less := chronicle.loop.workload_endPass_le result
      rw [moved, running, Option.toList_some, List.length_singleton] at less
      omega
  | call request next ih =>
      have can : (chronicle.loop.step? pass handle .advance).isSome := by
        simp [EventLoop.step?, EventLoop.advance?, running]
      obtain ⟨after, stepped, moved⟩ := step?_isSome can
      simp only [EventLoop.step?, EventLoop.advance?, running, Option.some.injEq] at moved
      obtain ⟨count, last, ran, less⟩ := @ih (handle request chronicle.loop.world).1 after
        (by rw [← moved])
      refine ⟨count + 1, last, ?_, Nat.lt_of_lt_of_le less (Nat.le_of_eq ?_)⟩
      · rw [List.replicate_succ, run?, stepped]
        exact ran
      · rw [← moved]
        simp only [EventLoop.workload, running, Option.toList_some, List.length_singleton]

/-- As long as something waits, events of the loop's own leave less of it. -/
theorem Accounted.goes_on {world : σ} (accounted : chronicle.Accounted pass handle world)
    (going : chronicle.loop.stopped = false) (waits : chronicle.loop.workload ≠ 0) :
    ∃ (events : List LoopEvent) (after : PassChronicle Reply σ),
      (∀ event ∈ events, event.isOwn = true) ∧
      chronicle.run? pass handle (events.map .loop) = some after ∧
      after.loop.workload < chronicle.loop.workload := by
  have unblocked := accounted.unblocked going
  have alone : ∀ event : LoopEvent, event.isOwn = true →
      (chronicle.loop.step? pass handle event).isSome →
      (∀ loop, chronicle.loop.step? pass handle event = some loop →
        loop.workload < chronicle.loop.workload) →
      ∃ (events : List LoopEvent) (after : PassChronicle Reply σ),
        (∀ event ∈ events, event.isOwn = true) ∧
        chronicle.run? pass handle (events.map .loop) = some after ∧
        after.loop.workload < chronicle.loop.workload := by
    intro event own can less
    obtain ⟨after, stepped, moved⟩ := step?_isSome can
    refine ⟨[event], after, by simpa using own, ?_, less _ moved⟩
    exact (run?_singleton _).trans stepped
  cases running : chronicle.loop.running with
  | some program =>
      obtain ⟨count, after, ran, less⟩ := finishes pass handle running
      refine ⟨List.replicate count .advance, after, ?_, ?_, less⟩
      · intro event member
        rw [List.eq_of_mem_replicate member]
        rfl
      · rw [List.map_replicate]
        exact ran
  | none =>
      by_cases snapshots : chronicle.loop.snapshots = []
      · by_cases faults : chronicle.loop.watchFaults = []
        · by_cases queue : chronicle.loop.queue = []
          · have sending : 0 < chronicle.loop.sending.length := by
              simp only [EventLoop.workload, running, snapshots, faults, queue, List.length_nil,
                Option.toList_none] at waits
              omega
            have can := (unblocked.enqueues 0 sending).resolve_right (not_not_intro queue)
            exact alone (.enqueue 0) rfl can fun _ => EventLoop.workload_enqueue?_lt
          · exact alone .handleError rfl (unblocked.handlesError running queue)
              fun _ => EventLoop.workload_handleError?_lt
        · exact alone .takeWatchFault rfl (unblocked.takesWatchFault running faults)
            fun _ => EventLoop.workload_takeWatchFault?_lt
      · exact alone .takeSnapshot rfl (unblocked.takesSnapshot running snapshots)
          fun _ => EventLoop.workload_takeSnapshot?_lt

theorem Accounted.comes_to_rest {world : σ} (accounted : chronicle.Accounted pass handle world)
    (going : chronicle.loop.stopped = false) :
    ∃ (events : List LoopEvent) (rest : PassChronicle Reply σ),
      (∀ event ∈ events, event.isOwn = true) ∧
      chronicle.run? pass handle (events.map .loop) = some rest ∧ rest.loop.workload = 0 := by
  -- on what waits: nothing arrives by the loop's own events, so less is left after each round
  induction waiting : chronicle.loop.workload using Nat.strongRecOn
    generalizing chronicle with
  | ind workload ih =>
      by_cases none : chronicle.loop.workload = 0
      · exact ⟨[], chronicle, by simp, rfl, none⟩
      obtain ⟨events, after, own, ran, less⟩ := accounted.goes_on going none
      obtain ⟨-, -, stopped⟩ := kept_of_own_run own ran
      obtain ⟨more, rest, ownMore, ranMore, done⟩ := ih _ (waiting ▸ less)
        (run?_keeps _ (fun steps holds => holds.step steps) ran accounted) (stopped.trans going) rfl
      refine ⟨events ++ more, rest, ?_, ?_, done⟩
      · intro event member
        exact (List.mem_append.1 member).elim (own event) (ownMore event)
      · rw [List.map_append, run?_append ran]
        exact ranMore

theorem Accounted.only_drops {world : σ} (accounted : chronicle.Accounted pass handle world)
    (stopped : chronicle.loop.stopped = true) {events : List ChronicleEvent}
    (ran : chronicle.run? pass handle events = some after) :
    ∃ sending, after = { chronicle with loop.sending := sending } := by
  refine run?_keeps (fun later =>
    ∃ sending, later = { chronicle with loop.sending := sending }) ?_ ran ⟨_, rfl⟩
  rintro before after steps ⟨sending, rfl⟩
  have idle := accounted.finished stopped
  cases steps with
  | drop position => exact ⟨_, rfl⟩
  | snapshotArrives _ running | watchFaultArrives _ running | takeSnapshot running
  | takeWatchFault running | enqueue running | handleError running =>
      cases stopped.symm.trans running
  | call running | endPass running => cases idle.symm.trans running
  | stop => exact ⟨sending, by rw [← stopped]⟩

end Chronicle

end

/-! The endpoints that are served. -/

section

variable {σ : Type} {store : StoreHandler σ} {operator : OperatorHandler σ}
  {serve : List Endpoint → σ → σ} {table : σ → EndpointTable}

def servedAfter (proxy : Proxy) (served : EndpointTable) (begun : List Snapshot) : EndpointTable :=
  match begun.getLast? with
  | none => served
  | some snapshot => .ofEndpoints (endpointsOf proxy snapshot)

theorem Publishes.table_passes (publishes : Publishes store operator serve table) (proxy : Proxy)
    (begun : List Snapshot) (world : σ) :
    table ((begun.mapM (passCalls proxy)).run (worldHandler store operator serve) world).2 =
      servedAfter proxy (table world) begun := by
  rcases List.eq_nil_or_concat begun with rfl | ⟨earlier, last, rfl⟩
  · rfl
  · rw [List.concat_eq_append, Program.run_mapM_concat, servedAfter, List.getLast?_concat]
    exact publishes.table_run proxy last _

theorem Publishes.table_inTurn (publishes : Publishes store operator serve table) {proxy : Proxy}
    {world point : σ} {begun : List Snapshot} {ended : List (Except Failure Unit)}
    {running : Option (Program WorldCall.Reply (Except Failure Unit))}
    (inTurn : InTurn (passCalls proxy) (worldHandler store operator serve) world begun ended running
      point) :
    table point = servedAfter proxy (table world) begun ∨
      running ≠ none ∧ table point = servedAfter proxy (table world) begun.dropLast := by
  cases inTurn with
  | idle ran =>
      left
      have served := publishes.table_passes proxy begun world
      rwa [ran] at served
  | @busy earlier ended between snapshot left point ran reaches =>
      have served := publishes.table_passes proxy earlier world
      rw [ran] at served
      rcases publishes.table_points proxy snapshot between point reaches.mem_points with same | own
      · refine .inr ⟨Option.some_ne_none _, ?_⟩
        rw [List.dropLast_concat, same, served]
      · refine .inl ?_
        rw [own, servedAfter, List.getLast?_concat]

namespace Chronicle

end Chronicle

end

def unmappedOrders : Schema :=
  { name := "orders", resolverMap := "totals", source := "type Query { total: Int }", version := 1 }

def crowdedSite : Site Unit where
  store := ({} : MemoryStore).putSchema unmappedOrders
  operator := ()

/-- The later of two watch faults takes the only place in the queue, and a pass fails meanwhile. -/
def crowdingEvents : List ChronicleEvent :=
  [.loop (.watchFaultArrives (.notification "lost")),
    .loop (.watchFaultArrives (.notification "late")), .loop .takeWatchFault, .loop .takeWatchFault,
    .loop (.snapshotArrives ⟨[unmappedOrders], []⟩), .loop .takeSnapshot, .loop (.enqueue 1)] ++
  List.replicate 5 (.loop .advance)

end GatewayControl
