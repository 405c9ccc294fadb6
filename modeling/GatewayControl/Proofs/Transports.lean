import GatewayControl.EventLoop
import GatewayControl.Watch.Directory
import GatewayControl.Watch.Poller
import Mathlib.Data.List.Destutter

/-!
Watch transports over their whole history. A transport observes its store, and what it delivers of an
observation waits until there is room in its channel, where a receiver takes it. Of the snapshots,
those that repeat the one before are left out, whatever faults came between; of the faults, none.
-/

namespace GatewayControl

/-! Lists without repetitions in a row. -/

section

variable {α : Type} [DecidableEq α]

theorem destutter_concat (values : List α) (value : α) :
    (values ++ [value]).destutter (· ≠ ·) =
      if values.getLast? = some value then values.destutter (· ≠ ·)
      else values.destutter (· ≠ ·) ++ [value] := by
  cases values with
  | nil => rfl
  | cons head values =>
      rw [List.cons_append, List.destutter_cons', List.destutter_cons']
      induction values generalizing head with
      | nil =>
          by_cases same : head = value
          · simp [same]
          · simp [same]
      | cons next values ih =>
          rw [List.cons_append, List.getLast?_cons_cons]
          by_cases same : head = next
          · rw [List.destutter'_cons_neg _ (not_not.2 same), List.destutter'_cons_neg _ (not_not.2 same),
              same]
            exact ih next
          · rw [List.destutter'_cons_pos _ same, List.destutter'_cons_pos _ same, ih next]
            split <;> rfl

theorem getLast?_destutter (values : List α) :
    (values.destutter (· ≠ ·)).getLast? = values.getLast? := by
  induction values using List.reverseRecOn with
  | nil => rfl
  | append_singleton values value ih =>
      rw [destutter_concat, List.getLast?_concat]
      split
      · rename_i last
        rw [ih, last]
      · rw [List.getLast?_concat]

theorem destutter_prefix (values more : List α) :
    values.destutter (· ≠ ·) <+: (values ++ more).destutter (· ≠ ·) := by
  induction more using List.reverseRecOn with
  | nil => simp
  | append_singleton more value ih =>
      rw [← List.append_assoc, destutter_concat]
      split
      · exact ih
      · exact ih.trans (List.prefix_append _ _)

end

/-! Observations and what is delivered of them. -/

abbrev StoreObservation := Except StorageFault Snapshot

def snapshotsIn (observations : List StoreObservation) : List Snapshot :=
  observations.filterMap Except.toOption

def faultsIn (observations : List StoreObservation) : List WatchFault :=
  observations.filterMap fun
    | .ok _ => none
    | .error fault => some (.load fault)

namespace Delivery

def snapshot? : Delivery → Option Snapshot
  | .snapshot seen => some seen
  | .fault _ => none

def fault? : Delivery → Option WatchFault
  | .snapshot _ => none
  | .fault noticed => some noticed

end Delivery

/-- A transport between two steps, and what its receivers have taken. -/
structure Transport (τ : Type) where
  watcher : τ
  /-- What waits for room in its channel. Until it is there, nothing else is observed. -/
  sending : Option Delivery := none
  snapshots : List Snapshot := []
  faults : List WatchFault := []
  takenSnapshots : List Snapshot := []
  takenFaults : List WatchFault := []

inductive TransportEvent
  | observe (observation : StoreObservation)
  | send
  | takeSnapshot
  | takeFault

namespace TransportEvent

def observation? : TransportEvent → Option StoreObservation
  | observe observation => some observation
  | send | takeSnapshot | takeFault => none

def observations (events : List TransportEvent) : List StoreObservation :=
  events.filterMap observation?

end TransportEvent

namespace Transport

variable {τ : Type}

def put? (transport : Transport τ) : Delivery → Option (Transport τ)
  | .snapshot snapshot =>
    if transport.snapshots.length < snapshotCapacity then
      some { transport with snapshots := transport.snapshots ++ [snapshot] }
    else none
  | .fault fault =>
    if transport.faults.length < watchFaultCapacity then
      some { transport with faults := transport.faults ++ [fault] }
    else none

/-- A new transport after a first observation, whose delivery does not wait: without room it is lost. -/
def ofFirst (first : Option Delivery × τ) : Transport τ :=
  let transport : Transport τ := { watcher := first.2 }
  match first.1 with
  | none => transport
  | some delivery => (transport.put? delivery).getD transport

def send? (transport : Transport τ) : Option (Transport τ) :=
  match transport.sending with
  | none => none
  | some delivery => { transport with sending := none }.put? delivery

def takeSnapshot? (transport : Transport τ) : Option (Transport τ) :=
  match transport.snapshots with
  | [] => none
  | snapshot :: snapshots =>
    some { transport with snapshots, takenSnapshots := transport.takenSnapshots ++ [snapshot] }

def takeFault? (transport : Transport τ) : Option (Transport τ) :=
  match transport.faults with
  | [] => none
  | fault :: faults =>
    some { transport with faults, takenFaults := transport.takenFaults ++ [fault] }

section

variable (observe : τ → StoreObservation → Option Delivery × τ)

def observed? (transport : Transport τ) (observation : StoreObservation) : Option (Transport τ) :=
  match transport.sending with
  | some _ => none
  | none =>
    let (sending, watcher) := observe transport.watcher observation
    some { transport with watcher, sending }

def step? (transport : Transport τ) : TransportEvent → Option (Transport τ)
  | .observe observation => transport.observed? observe observation
  | .send => transport.send?
  | .takeSnapshot => transport.takeSnapshot?
  | .takeFault => transport.takeFault?

def run? (transport : Transport τ) : List TransportEvent → Option (Transport τ)
  | [] => some transport
  | event :: events => (transport.step? observe event).bind fun next => next.run? events

end

def sentSnapshots (transport : Transport τ) : List Snapshot :=
  transport.takenSnapshots ++ transport.snapshots ++
    (transport.sending.bind Delivery.snapshot?).toList

def sentFaults (transport : Transport τ) : List WatchFault :=
  transport.takenFaults ++ transport.faults ++ (transport.sending.bind Delivery.fault?).toList

end Transport

def Watches {τ : Type} (watcher : Observer → τ) (observe : τ → StoreObservation → Option Delivery × τ) :
    Prop :=
  ∀ observer observation, observe (watcher observer) observation =
    ((Observer.observe observer observation).1, watcher (Observer.observe observer observation).2)

theorem Poller.watches : Watches (fun observer => { observer }) Poller.observe := by
  intro observer observation
  simp only [observe]
  generalize observer.observe observation = observed
  obtain ⟨delivery, after⟩ := observed
  cases delivery with
  | none => rfl
  | some delivery => cases delivery <;> rfl

theorem DirectoryWatch.watches (store : FileStore) :
    Watches (fun observer => { store, observer }) DirectoryWatch.observe :=
  fun _ _ => rfl

/-! One observation after others. -/

theorem snapshotsIn_append (observations more : List StoreObservation) :
    snapshotsIn (observations ++ more) = snapshotsIn observations ++ snapshotsIn more :=
  List.filterMap_append

theorem faultsIn_append (observations more : List StoreObservation) :
    faultsIn (observations ++ more) = faultsIn observations ++ faultsIn more :=
  List.filterMap_append

/-- An observer that remembers the last snapshot delivers what is new of the next observation, and
remembers the last snapshot again. -/
theorem Observer.observe_next (observations : List StoreObservation)
    (observation : StoreObservation) :
    let observed := (⟨(snapshotsIn observations).getLast?⟩ : Observer).observe observation
    observed.2 = ⟨(snapshotsIn (observations ++ [observation])).getLast?⟩ ∧
    (snapshotsIn observations).destutter (· ≠ ·) ++ (observed.1.bind Delivery.snapshot?).toList =
      (snapshotsIn (observations ++ [observation])).destutter (· ≠ ·) ∧
    faultsIn observations ++ (observed.1.bind Delivery.fault?).toList =
      faultsIn (observations ++ [observation]) := by
  rw [snapshotsIn_append, faultsIn_append]
  cases observation with
  | error fault =>
      have nothing : snapshotsIn [.error fault] = [] := rfl
      have own : faultsIn [.error fault] = [.load fault] := rfl
      rw [nothing, own, List.append_nil]
      simp [observe, Delivery.snapshot?, Delivery.fault?]
  | ok snapshot =>
      have own : snapshotsIn [.ok snapshot] = [snapshot] := rfl
      have nothing : faultsIn [.ok snapshot] = [] := rfl
      rw [own, nothing, destutter_concat, List.getLast?_concat]
      by_cases same : (snapshotsIn observations).getLast? = some snapshot
      · simp [observe, same]
      · simp [observe, same, Delivery.snapshot?, Delivery.fault?]

/-! What a transport keeps to. -/

namespace Transport

inductive Steps {τ : Type} (observe : τ → StoreObservation → Option Delivery × τ)
    (transport : Transport τ) : TransportEvent → Transport τ → Prop
  | observe {observation : StoreObservation} : transport.sending = none →
      Steps observe transport (.observe observation) { transport with
        watcher := (observe transport.watcher observation).2
        sending := (observe transport.watcher observation).1 }
  | sendSnapshot {snapshot : Snapshot} : transport.sending = some (.snapshot snapshot) →
      transport.snapshots.length < snapshotCapacity →
      Steps observe transport .send { transport with
        sending := none
        snapshots := transport.snapshots ++ [snapshot] }
  | sendFault {fault : WatchFault} : transport.sending = some (.fault fault) →
      transport.faults.length < watchFaultCapacity →
      Steps observe transport .send { transport with
        sending := none
        faults := transport.faults ++ [fault] }
  | takeSnapshot {snapshot : Snapshot} {snapshots : List Snapshot} :
      transport.snapshots = snapshot :: snapshots →
      Steps observe transport .takeSnapshot { transport with
        snapshots := snapshots
        takenSnapshots := transport.takenSnapshots ++ [snapshot] }
  | takeFault {fault : WatchFault} {faults : List WatchFault} : transport.faults = fault :: faults →
      Steps observe transport .takeFault { transport with
        faults := faults
        takenFaults := transport.takenFaults ++ [fault] }

/-- Whether what was sent is what should be of the observations so far, and the next observation will
be compared with the last snapshot. -/
structure Sound {τ : Type} (watcher : Observer → τ) (transport : Transport τ)
    (observations : List StoreObservation) : Prop where
  remembers : transport.watcher = watcher ⟨(snapshotsIn observations).getLast?⟩
  snapshots : transport.sentSnapshots = (snapshotsIn observations).destutter (· ≠ ·)
  faults : transport.sentFaults = faultsIn observations
  snapshotsFit : transport.snapshots.length ≤ snapshotCapacity
  faultsFit : transport.faults.length ≤ watchFaultCapacity

section

variable {τ : Type} {watcher : Observer → τ} {observe : τ → StoreObservation → Option Delivery × τ}
  {transport after : Transport τ} {observations : List StoreObservation}

theorem steps_of_step? {event : TransportEvent} (stepped : transport.step? observe event = some after) :
    transport.Steps observe event after := by
  cases event with
  | observe observation =>
      simp only [step?, observed?] at stepped
      split at stepped <;> cases stepped
      exact .observe ‹_›
  | send =>
      simp only [step?, send?] at stepped
      split at stepped
      · cases stepped
      · rename_i delivery waiting
        cases delivery with
        | snapshot snapshot =>
            simp only [put?] at stepped
            split at stepped <;> cases stepped
            exact .sendSnapshot waiting ‹_›
        | fault fault =>
            simp only [put?] at stepped
            split at stepped <;> cases stepped
            exact .sendFault waiting ‹_›
  | takeSnapshot =>
      simp only [step?, takeSnapshot?] at stepped
      split at stepped <;> cases stepped
      exact .takeSnapshot ‹_›
  | takeFault =>
      simp only [step?, takeFault?] at stepped
      split at stepped <;> cases stepped
      exact .takeFault ‹_›

theorem sound_start (watcher : Observer → τ) : Sound watcher { watcher := watcher {} } [] :=
  ⟨rfl, rfl, rfl, Nat.zero_le _, Nat.zero_le _⟩

theorem Sound.observed (watches : Watches watcher observe)
    (sound : transport.Sound watcher observations) (waiting : transport.sending = none)
    (observation : StoreObservation) :
    Sound watcher { transport with
      watcher := (observe transport.watcher observation).2
      sending := (observe transport.watcher observation).1 } (observations ++ [observation]) := by
  have snapshots := sound.snapshots
  have faults := sound.faults
  rw [sentSnapshots, waiting, Option.bind_none, Option.toList_none, List.append_nil] at snapshots
  rw [sentFaults, waiting, Option.bind_none, Option.toList_none, List.append_nil] at faults
  obtain ⟨remembers, next, nextFaults⟩ := Observer.observe_next observations observation
  rw [sound.remembers, watches]
  refine ⟨congrArg watcher remembers, ?_, ?_, sound.snapshotsFit, sound.faultsFit⟩
  · rw [← next, ← snapshots]
    rfl
  · rw [← nextFaults, ← faults]
    rfl

theorem Sound.step (watches : Watches watcher observe)
    (sound : transport.Sound watcher observations) {event : TransportEvent}
    (steps : transport.Steps observe event after) :
    after.Sound watcher (observations ++ event.observation?.toList) := by
  cases steps with
  | observe waiting => exact sound.observed watches waiting _
  | sendSnapshot waiting room =>
      rw [TransportEvent.observation?, Option.toList_none, List.append_nil]
      refine ⟨sound.remembers, ?_, ?_, ?_, sound.faultsFit⟩
      · simp [← sound.snapshots, sentSnapshots, waiting, Delivery.snapshot?]
      · simp [← sound.faults, sentFaults, waiting, Delivery.fault?]
      · rw [List.length_append]
        exact room
  | sendFault waiting room =>
      rw [TransportEvent.observation?, Option.toList_none, List.append_nil]
      refine ⟨sound.remembers, ?_, ?_, sound.snapshotsFit, ?_⟩
      · simp [← sound.snapshots, sentSnapshots, waiting, Delivery.snapshot?]
      · simp [← sound.faults, sentFaults, waiting, Delivery.fault?]
      · rw [List.length_append]
        exact room
  | takeSnapshot queued =>
      rw [TransportEvent.observation?, Option.toList_none, List.append_nil]
      refine ⟨sound.remembers, ?_, sound.faults, ?_, sound.faultsFit⟩
      · simp [← sound.snapshots, sentSnapshots, queued]
      · have fits := sound.snapshotsFit
        rw [queued] at fits
        exact Nat.le_of_succ_le fits
  | takeFault queued =>
      rw [TransportEvent.observation?, Option.toList_none, List.append_nil]
      refine ⟨sound.remembers, sound.snapshots, ?_, sound.snapshotsFit, ?_⟩
      · simp [← sound.faults, sentFaults, queued]
      · have fits := sound.faultsFit
        rw [queued] at fits
        exact Nat.le_of_succ_le fits

theorem Sound.run (watches : Watches watcher observe) {events : List TransportEvent}
    (ran : transport.run? observe events = some after) (sound : transport.Sound watcher observations) :
    after.Sound watcher (observations ++ TransportEvent.observations events) := by
  induction events generalizing transport observations with
  | nil =>
      cases ran
      simpa [TransportEvent.observations] using sound
  | cons event events ih =>
      obtain ⟨next, stepped, rest⟩ := Option.bind_eq_some_iff.1 ran
      have last := ih rest (sound.step watches (steps_of_step? stepped))
      have split : TransportEvent.observations (event :: events) =
          event.observation?.toList ++ TransportEvent.observations events := by
        cases event <;> rfl
      rwa [List.append_assoc, ← split] at last

theorem sound_ofFirst (watches : Watches watcher observe) (observation : StoreObservation) :
    Sound watcher (ofFirst (observe (watcher {}) observation)) [observation] := by
  have waited := (sound_start watcher).observed watches rfl observation
  rw [List.nil_append] at waited
  rw [ofFirst]
  cases delivered : (observe (watcher {}) observation).1 with
  | none =>
      simp only [delivered] at waited
      exact waited
  | some delivery =>
      have unobserved : TransportEvent.send.observation?.toList = [] := rfl
      cases delivery with
      | snapshot snapshot =>
          have sent := waited.step watches (.sendSnapshot delivered (Nat.succ_pos 0))
          rwa [unobserved, List.append_nil] at sent
      | fault fault =>
          have sent := waited.step watches (.sendFault delivered (Nat.succ_pos 15))
          rwa [unobserved, List.append_nil] at sent

/-! Waiting sends get their room: what is left to do becomes less with every step but an observation. -/

def workload (transport : Transport τ) : Nat :=
  2 * transport.sending.toList.length + transport.snapshots.length + transport.faults.length

theorem workload_lt {event : TransportEvent} (steps : transport.Steps observe event after)
    (own : event.observation? = none) : after.workload < transport.workload := by
  cases steps with
  | observe => cases own
  | sendSnapshot waiting | sendFault waiting =>
      simp only [workload, waiting, Option.toList_none, Option.toList_some, List.length_append,
        List.length_cons, List.length_nil]
      omega
  | takeSnapshot queued | takeFault queued =>
      simp only [workload, queued, List.length_cons]
      omega

theorem workload_eq_zero (idle : transport.workload = 0) :
    transport.sending = none ∧ transport.snapshots = [] ∧ transport.faults = [] := by
  simp only [workload] at idle
  refine ⟨?_, ?_, ?_⟩
  · exact Option.toList_eq_nil_iff.1 (List.length_eq_zero_iff.1 (by omega))
  · exact List.length_eq_zero_iff.1 (by omega)
  · exact List.length_eq_zero_iff.1 (by omega)

theorem exists_own_step (observe : τ → StoreObservation → Option Delivery × τ)
    (busy : transport.workload ≠ 0) :
    ∃ event : TransportEvent, event.observation? = none ∧ (transport.step? observe event).isSome := by
  cases snapshots : transport.snapshots with
  | cons snapshot rest => exact ⟨.takeSnapshot, rfl, by simp [step?, takeSnapshot?, snapshots]⟩
  | nil =>
      cases faults : transport.faults with
      | cons fault rest => exact ⟨.takeFault, rfl, by simp [step?, takeFault?, faults]⟩
      | nil =>
          cases waiting : transport.sending with
          | none => simp [workload, snapshots, faults, waiting] at busy
          | some delivery =>
              refine ⟨.send, rfl, ?_⟩
              cases delivery with
              | snapshot snapshot => simp [step?, send?, waiting, put?, snapshots, snapshotCapacity]
              | fault fault => simp [step?, send?, waiting, put?, faults, watchFaultCapacity]

theorem comes_to_rest (observe : τ → StoreObservation → Option Delivery × τ) (transport : Transport τ) :
    ∃ own rest, TransportEvent.observations own = [] ∧ transport.run? observe own = some rest ∧
      rest.sending = none ∧ rest.snapshots = [] ∧ rest.faults = [] := by
  induction size : transport.workload using Nat.strongRecOn generalizing transport with
  | ind size ih =>
      by_cases finished : transport.workload = 0
      · exact ⟨[], transport, rfl, rfl, workload_eq_zero finished⟩
      · obtain ⟨event, own, possible⟩ := exists_own_step observe finished
        obtain ⟨next, stepped⟩ := Option.isSome_iff_exists.1 possible
        have less := workload_lt (steps_of_step? stepped) own
        obtain ⟨events, rest, owned, ran, empty⟩ := ih next.workload (size ▸ less) next rfl
        refine ⟨event :: events, rest, ?_, ?_, empty⟩
        · rw [TransportEvent.observations, List.filterMap_cons, own]
          exact owned
        · rw [run?, stepped]
          exact ran

/-- Whether a transport has sent just the changes among the observations so far, and all faults, and
whoever waits gets on with it. -/
structure SendsChanges (observe : τ → StoreObservation → Option Delivery × τ) (transport : Transport τ)
    (observations : List StoreObservation) : Prop where
  snapshots : transport.sentSnapshots = (snapshotsIn observations).destutter (· ≠ ·)
  faults : transport.sentFaults = faultsIn observations
  apart : transport.sentSnapshots.IsChain (· ≠ ·)
  /-- A snapshot that differs from the one before it is sent, whatever was sent earlier. -/
  again : ∀ earlier snapshot later, observations = earlier ++ .ok snapshot :: later →
    (snapshotsIn earlier).getLast? ≠ some snapshot →
    (snapshotsIn earlier).destutter (· ≠ ·) ++ [snapshot] <+: transport.sentSnapshots
  latest : transport.sentSnapshots.getLast? = (snapshotsIn observations).getLast?
  fit : transport.snapshots.length ≤ snapshotCapacity ∧ transport.faults.length ≤ watchFaultCapacity
  unblocked : transport.workload ≠ 0 →
    ∃ event, event.observation? = none ∧ (transport.step? observe event).isSome
  arrives : ∃ own rest, TransportEvent.observations own = [] ∧ transport.run? observe own = some rest ∧
    rest.sending = none ∧ rest.takenSnapshots = transport.sentSnapshots ∧
    rest.takenFaults = transport.sentFaults

theorem Sound.sendsChanges (watches : Watches watcher observe)
    (sound : transport.Sound watcher observations) : transport.SendsChanges observe observations := by
  constructor
  · exact sound.snapshots
  · exact sound.faults
  · rw [sound.snapshots]
    exact List.isChain_destutter _ _
  · rintro earlier snapshot later rfl changed
    have own : snapshotsIn (.ok snapshot :: later) = [snapshot] ++ snapshotsIn later := rfl
    rw [sound.snapshots, snapshotsIn_append, own, ← List.append_assoc]
    have next := destutter_concat (snapshotsIn earlier) snapshot
    rw [if_neg changed] at next
    rw [← next]
    exact destutter_prefix _ _
  · rw [sound.snapshots, getLast?_destutter]
  · exact ⟨sound.snapshotsFit, sound.faultsFit⟩
  · exact exists_own_step observe
  · obtain ⟨own, rest, owned, ran, sent, snapshots, faults⟩ := comes_to_rest observe transport
    have last := sound.run watches ran
    rw [owned, List.append_nil] at last
    refine ⟨own, rest, owned, ran, sent, ?_, ?_⟩
    · rw [sound.snapshots, ← last.snapshots, sentSnapshots, sent, snapshots]
      simp
    · rw [sound.faults, ← last.faults, sentFaults, sent, faults]
      simp

end

end Transport

/-- Whatever a transport observes, and however slowly its receivers take: of the snapshots it sends
those that differ from the one observed before, faults in between notwithstanding, and it sends all
faults, in order. This holds for polling from its start, and for watching a directory from the
first observation on. -/
theorem transports_send_changes :
    (∀ (events : List TransportEvent) (transport : Transport Poller),
      ({ watcher := {} } : Transport Poller).run? Poller.observe events = some transport →
      transport.SendsChanges Poller.observe (TransportEvent.observations events)) ∧
    ∀ (store : FileStore) (first : StoreObservation) (events : List TransportEvent)
      (transport : Transport DirectoryWatch),
      (Transport.ofFirst (DirectoryWatch.observe { store } first)).run? DirectoryWatch.observe events =
        some transport →
      transport.SendsChanges DirectoryWatch.observe (first :: TransportEvent.observations events) := by
  constructor
  · intro events transport ran
    have sound := (Transport.sound_start _).run Poller.watches ran
    exact sound.sendsChanges Poller.watches
  · intro store first events transport ran
    have watches := DirectoryWatch.watches store
    have sound := (Transport.sound_ofFirst watches first).run watches ran
    exact sound.sendsChanges watches

def emptySnapshot : Snapshot := {}

def ordersSnapshot : Snapshot := { schemas := [{ name := "orders", source := "" }] }

/-- A state is seen again after a fault, and again after another state; the last one has to wait. -/
def revisitingEvents : List TransportEvent :=
  [.observe (.ok emptySnapshot), .send, .observe (.error (.io "unreadable")), .send,
    .observe (.ok emptySnapshot), .takeSnapshot, .observe (.ok ordersSnapshot), .send,
    .observe (.ok emptySnapshot)]

theorem revisited_snapshot_sent :
    (∃ transport, ({ watcher := {} } : Transport Poller).run? Poller.observe revisitingEvents =
        some transport ∧
      transport.sending = some (.snapshot emptySnapshot) ∧
      transport.sentSnapshots = [emptySnapshot, ordersSnapshot, emptySnapshot] ∧
      transport.sentFaults = [.load (.io "unreadable")] ∧
      transport.SendsChanges Poller.observe (TransportEvent.observations revisitingEvents)) ∧
    ∃ transport, (Transport.ofFirst (DirectoryWatch.observe { store := ⟨["config"]⟩ }
        (.ok emptySnapshot))).run? DirectoryWatch.observe revisitingEvents.tail.tail = some transport ∧
      transport.sentSnapshots = [emptySnapshot, ordersSnapshot, emptySnapshot] ∧
      transport.SendsChanges DirectoryWatch.observe
        (.ok emptySnapshot :: TransportEvent.observations revisitingEvents.tail.tail) :=
  ⟨⟨_, rfl, rfl, rfl, rfl, transports_send_changes.1 _ _ rfl⟩,
    ⟨_, rfl, rfl, transports_send_changes.2 _ _ _ _ rfl⟩⟩

end GatewayControl
