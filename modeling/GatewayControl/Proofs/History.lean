import GatewayControl.Proofs.Run
import GatewayControl.Store.Item
import Mathlib.Logic.Function.Iterate

/-!
Histories of a store that any number of clients call. What a store holds is what stands under each
reference, and each call is answered from that alone. So the version of an object numbers its
states, and a client that names a version names the state that it was last given.
-/

namespace GatewayControl

/-! Versions, one after the other. -/

theorem iterate_nextVersion (count version : Nat) :
    nextVersion^[count + 1] version = (version + (count + 1)) % UInt64.size := by
  induction count with
  | zero => rfl
  | succ count ih =>
      rw [Function.iterate_succ_apply', ih, nextVersion, Nat.mod_add_mod, Nat.add_assoc]

/-- Fewer updates than there are versions lead to another version. -/
theorem iterate_nextVersion_ne {count : Nat} (few : count + 1 < UInt64.size) (version : Nat) :
    nextVersion^[count + 1] version ≠ version := by
  rw [iterate_nextVersion]
  simp only [UInt64.size] at few ⊢
  omega

abbrev Contents := ObjectRef → Option StoredItem

def Contents.put (contents : Contents) (item : StoredItem) : Contents := fun ref =>
  if ref = item.ref then some item else contents ref

theorem Contents.put_self (contents : Contents) (item : StoredItem) :
    contents.put item item.ref = some item := if_pos rfl

theorem Contents.put_of_ne (contents : Contents) {item : StoredItem} {ref : ObjectRef}
    (different : ref ≠ item.ref) : contents.put item ref = contents ref := if_neg different

def StoreCall.given : (call : StoreCall) → call.Reply → List StoredItem
  | .getSchema _, .ok schema | .updateSchema _, .ok schema => [.schema schema]
  | .listSchemas, .ok schemas => schemas.map .schema
  | .getMap _, .ok map | .createMap _, .ok map | .updateMap _, .ok map => [.resolverMap map]
  | .listMaps, .ok maps => maps.map .resolverMap
  | _, .error _ => []

def StoreCall.updates? : (call : StoreCall) → call.Reply → Option StoredItem
  | .updateSchema schema, .ok _ => some (.schema schema)
  | .updateMap map, .ok _ => some (.resolverMap map)
  | _, _ => none

def StoreCall.creates? : (call : StoreCall) → call.Reply → Option StoredItem
  | .createMap map, .ok _ => some (.resolverMap map)
  | _, _ => none

def StoreCall.updated? (call : StoreCall) (reply : call.Reply) : Option ObjectRef :=
  (call.updates? reply).map StoredItem.ref

theorem StoreCall.updates?_error (call : StoreCall) (fault : StorageFault) :
    call.updates? (.error fault) = none := by
  cases call <;> rfl

theorem StoreCall.updates?_get {object : ObjectRef} (reply : (StoreCall.get object).Reply) :
    (StoreCall.get object).updates? reply = none := by
  obtain ⟨kind, name⟩ := object
  cases kind <;> cases reply <;> rfl

theorem StoreCall.updates?_update {item asked : StoredItem} {reply : (StoreCall.update item).Reply}
    (updates : (StoreCall.update item).updates? reply = some asked) : asked = item := by
  cases item <;> cases reply <;> cases updates <;> rfl

theorem StoreCall.creates?_get {object : ObjectRef} (reply : (StoreCall.get object).Reply) :
    (StoreCall.get object).creates? reply = none := by
  obtain ⟨kind, name⟩ := object
  cases kind <;> rfl

theorem StoreCall.creates?_update {item : StoredItem} (reply : (StoreCall.update item).Reply) :
    (StoreCall.update item).creates? reply = none := by
  cases item <;> rfl

theorem StoreCall.creates?_error (call : StoreCall) (fault : StorageFault) :
    call.creates? (.error fault) = none := by
  cases call <;> rfl

theorem StoreCall.given_error (call : StoreCall) (fault : StorageFault) :
    call.given (.error fault) = [] := by
  cases call <;> rfl

/-- How a call may be answered, and what the store holds afterwards: a call reads what is there, or
replaces an object of its version by the next, or adds one. -/
inductive Contents.Answers (contents : Contents) (call : StoreCall) (reply : call.Reply) :
    Contents → Prop
  | kept : call.updates? reply = none → call.creates? reply = none →
      (∀ item ∈ call.given reply, contents item.ref = some item) →
      contents.Answers call reply contents
  | updated {asked current : StoredItem} : call.updates? reply = some asked →
      call.creates? reply = none → contents asked.ref = some current →
      asked.version = current.version →
      call.given reply = [asked.withVersion (nextVersion asked.version)] →
      contents.Answers call reply (contents.put (asked.withVersion (nextVersion asked.version)))
  | created {asked : StoredItem} : call.updates? reply = none → call.creates? reply = some asked →
      contents asked.ref = none → call.given reply = [asked.withVersion 1] →
      contents.Answers call reply (contents.put (asked.withVersion 1))

theorem Contents.Answers.failed (contents : Contents) (call : StoreCall) (fault : StorageFault) :
    contents.Answers call (.error fault) contents := by
  refine .kept (call.updates?_error fault) (call.creates?_error fault) ?_
  rw [call.given_error]
  exact fun _ member => (List.not_mem_nil member).elim

section

variable {contents after : Contents} {call : StoreCall} {reply : call.Reply}

theorem Contents.Answers.keeps (answers : contents.Answers call reply after) {ref : ObjectRef}
    {item : StoredItem} (found : contents ref = some item) :
    ∃ later, after ref = some later ∧
      (later = item ∨ later.version = nextVersion item.version ∧
        ∃ asked, call.updates? reply = some asked ∧ asked.version = item.version) := by
  cases answers with
  | kept => exact ⟨item, found, .inl rfl⟩
  | @updated asked current updates _ present same =>
      by_cases here : ref = asked.ref
      · subst here
        cases present.symm.trans found
        refine ⟨asked.withVersion (nextVersion asked.version), ?_, .inr ⟨?_, asked, updates, same⟩⟩
        · rw [Contents.put, StoredItem.ref_withVersion, if_pos rfl]
        · rw [StoredItem.version_withVersion, same]
      · refine ⟨item, ?_, .inl rfl⟩
        rw [Contents.put_of_ne _ (by simpa using here), found]
  | @created asked _ _ absent =>
      by_cases here : ref = asked.ref
      · rw [here, absent] at found
        cases found
      · refine ⟨item, ?_, .inl rfl⟩
        rw [Contents.put_of_ne _ (by simpa using here), found]

theorem Contents.Answers.keeps_or_rises (answers : contents.Answers call reply after)
    (bounded : ∀ asked, call.updates? reply = some asked → asked.version + 1 < UInt64.size)
    {ref : ObjectRef} {item : StoredItem} (found : contents ref = some item) :
    ∃ later, after ref = some later ∧ (later = item ∨ item.version < later.version) := by
  obtain ⟨later, kept, same | ⟨next, asked, updates, version⟩⟩ := answers.keeps found
  · exact ⟨later, kept, .inl same⟩
  · rw [nextVersion_of_lt (version ▸ bounded asked updates)] at next
    exact ⟨later, kept, .inr (next ▸ Nat.lt_succ_self _)⟩

theorem Contents.Answers.given (answers : contents.Answers call reply after) {item : StoredItem}
    (given : item ∈ call.given reply) : after item.ref = some item := by
  cases answers with
  | kept _ _ current => exact current item given
  | updated _ _ _ _ only | created _ _ _ only =>
      rw [only, List.mem_singleton] at given
      rw [given]
      exact Contents.put_self _ _

theorem Contents.Answers.at_ref (answers : contents.Answers call reply after) (ref : ObjectRef) :
    (call.updated? reply ≠ some ref ∧ after ref = contents ref) ∨
    (∃ asked current, call.updates? reply = some asked ∧ call.updated? reply = some ref ∧
      contents ref = some current ∧ asked.version = current.version ∧
      after ref = some (asked.withVersion (nextVersion asked.version))) ∨
    ∃ asked, call.creates? reply = some asked ∧ asked.ref = ref ∧ call.updated? reply ≠ some ref ∧
      contents ref = none ∧ after ref = some (asked.withVersion 1) := by
  cases answers with
  | kept updates => exact .inl ⟨by simp [StoreCall.updated?, updates], rfl⟩
  | @updated asked current updates _ found same =>
      by_cases here : asked.ref = ref
      · subst here
        refine .inr (.inl ⟨asked, current, updates, ?_, found, same, ?_⟩)
        · rw [StoreCall.updated?, updates, Option.map_some]
        · rw [Contents.put, StoredItem.ref_withVersion, if_pos rfl]
      · refine .inl ⟨by simp [StoreCall.updated?, updates, here], ?_⟩
        exact Contents.put_of_ne _ (by simpa using Ne.symm here)
  | @created asked updates creates absent =>
      have other : call.updated? reply ≠ some ref := by simp [StoreCall.updated?, updates]
      by_cases here : asked.ref = ref
      · subst here
        refine .inr (.inr ⟨asked, creates, rfl, other, absent, ?_⟩)
        rw [Contents.put, StoredItem.ref_withVersion, if_pos rfl]
      · exact .inl ⟨other, Contents.put_of_ne _ (by simpa using Ne.symm here)⟩

theorem Contents.Answers.of_updates {asked : StoredItem}
    (answers : contents.Answers call reply after) (updates : call.updates? reply = some asked) :
    ∃ current, contents asked.ref = some current ∧ asked.version = current.version ∧
      after = contents.put (asked.withVersion (nextVersion asked.version)) := by
  cases answers with
  | kept missing => cases missing.symm.trans updates
  | updated own _ found same =>
      cases own.symm.trans updates
      exact ⟨_, found, same, rfl⟩
  | created missing => cases missing.symm.trans updates

theorem Contents.Answers.of_creates {asked : StoredItem}
    (answers : contents.Answers call reply after) (creates : call.creates? reply = some asked) :
    contents asked.ref = none ∧ after = contents.put (asked.withVersion 1) := by
  cases answers with
  | kept _ missing => cases missing.symm.trans creates
  | updated _ missing => cases missing.symm.trans creates
  | created _ own absent =>
      cases own.symm.trans creates
      exact ⟨absent, rfl⟩

end

/-- A store that holds the contents of its states and changes nothing when it fails. -/
structure Versioned {σ : Type} (handler : StoreHandler σ) (contents : σ → Contents) : Prop where
  answers : ∀ call state,
    (contents state).Answers call (handler call state).1 (contents (handler call state).2)
  failed : ∀ call state fault,
    (handler call state).1 = .error fault → (handler call state).2 = state

section

variable {κ σ : Type}

/-- The calls of clients with their replies, in the order in which the store comes to them. -/
def history (handler : StoreHandler σ) : List (κ × StoreCall) → σ → List (κ × Step StoreCall.Reply σ)
  | [], _ => []
  | (client, call) :: calls, state =>
    (client, ⟨state, call, (handler call state).1, (handler call state).2⟩) ::
      history handler calls (handler call state).2

def stateAfter (handler : StoreHandler σ) : List (κ × StoreCall) → σ → σ
  | [], state => state
  | (_, call) :: calls, state => stateAfter handler calls (handler call state).2

/-- What a client has been given of an object, the last at the end. -/
def givenTo [DecidableEq κ] (client : κ) (ref : ObjectRef)
    (steps : List (κ × Step StoreCall.Reply σ)) : List StoredItem :=
  steps.flatMap fun (other, step) =>
    if other = client then (step.call.given step.reply).filter fun item => item.ref = ref else []

/-- The objects that updates have replaced other objects with, as they were asked for. -/
def updatesIn (steps : List (κ × Step StoreCall.Reply σ)) : List StoredItem :=
  steps.filterMap fun (_, step) => step.call.updates? step.reply

def createsIn (steps : List (κ × Step StoreCall.Reply σ)) : List StoredItem :=
  steps.filterMap fun (_, step) => step.call.creates? step.reply

theorem updatesIn_append (steps more : List (κ × Step StoreCall.Reply σ)) :
    updatesIn (steps ++ more) = updatesIn steps ++ updatesIn more := List.filterMap_append

theorem updatesIn_history (handler : StoreHandler σ) (client : κ) (call : StoreCall)
    (calls : List (κ × StoreCall)) (state : σ) :
    updatesIn (history handler ((client, call) :: calls) state) =
      (call.updates? (handler call state).1).toList ++
        updatesIn (history handler calls (handler call state).2) := by
  simp only [history, updatesIn, List.filterMap_cons]
  cases call.updates? (handler call state).1 <;> rfl

theorem createsIn_history (handler : StoreHandler σ) (client : κ) (call : StoreCall)
    (calls : List (κ × StoreCall)) (state : σ) :
    createsIn (history handler ((client, call) :: calls) state) =
      (call.creates? (handler call state).1).toList ++
        createsIn (history handler calls (handler call state).2) := by
  simp only [history, createsIn, List.filterMap_cons]
  cases call.creates? (handler call state).1 <;> rfl

theorem history_eq_append {handler : StoreHandler σ} {calls : List (κ × StoreCall)} {state : σ}
    {earlier later : List (κ × Step StoreCall.Reply σ)} {client : κ} {step : Step StoreCall.Reply σ}
    (split : history handler calls state = earlier ++ (client, step) :: later) :
    ∃ first rest, earlier = history handler first state ∧
      step.before = stateAfter handler first state ∧
      handler step.call step.before = (step.reply, step.after) ∧
      later = history handler rest step.after := by
  induction earlier generalizing calls state with
  | nil =>
      cases calls with
      | nil => cases split
      | cons call calls =>
          obtain ⟨caller, call⟩ := call
          simp only [history, List.nil_append, List.cons.injEq, Prod.mk.injEq] at split
          obtain ⟨⟨-, rfl⟩, rfl⟩ := split
          exact ⟨[], calls, rfl, rfl, rfl, rfl⟩
  | cons head earlier ih =>
      cases calls with
      | nil => cases split
      | cons call calls =>
          obtain ⟨caller, call⟩ := call
          simp only [history, List.cons_append, List.cons.injEq] at split
          obtain ⟨rfl, split⟩ := split
          obtain ⟨first, rest, before, reached, handled, after⟩ := ih split
          exact ⟨(caller, call) :: first, rest, by rw [history, ← before], reached, handled, after⟩

end

end GatewayControl
