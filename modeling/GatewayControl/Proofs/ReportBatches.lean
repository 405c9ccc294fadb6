import GatewayControl.Proofs.Interleaving
import GatewayControl.Proofs.Outcomes
import GatewayControl.Proofs.Reporting

/-!
Batches of reports on a store of which any calls may fail without effect. Each report is written or
fails on its own: it fails with what the first failed call about its object says, and leaves that
object alone, or the object has its status.
-/

namespace GatewayControl

variable {σ : Type} {handler : StoreHandler σ} {store : σ → MemoryStore}

/-- Whether every call is answered as by a store in memory, or fails and changes nothing. -/
def UnreliableStore (handler : StoreHandler σ) (store : σ → MemoryStore) : Prop :=
  ∀ call state,
    (handler call state).1 = (MemoryStore.handle call (store state)).1 ∧
        store (handler call state).2 = (MemoryStore.handle call (store state)).2 ∨
      ∃ fault, (handler call state).1 = .error fault ∧ store (handler call state).2 = store state

theorem UnreliableStore.answers (unreliable : UnreliableStore handler store) (call : StoreCall)
    (state : σ) :
    MemoryStore.Answers call (store state) (handler call state).1 (store (handler call state).2) := by
  rcases unreliable call state with ⟨reply, after⟩ | ⟨fault, failed, same⟩
  · rw [reply, after]
    exact MemoryStore.handle_answers call (store state)
  · rw [failed, same]
    exact .failed call (store state) fault

/-! Objects and reported statuses. -/

namespace StoredItem

/-- An object for which a status has been reported. Only another status makes a new version. -/
def reported (status : Status) (item : StoredItem) : StoredItem :=
  if item.status = status then item else (item.withStatus status).withVersion (nextVersion item.version)

theorem status_reported (status : Status) (item : StoredItem) :
    (item.reported status).status = status := by
  rw [reported]
  split
  next same => exact same
  next => cases item <;> rfl

theorem reported_reported (status : Status) (item : StoredItem) :
    (item.reported status).reported status = item.reported status :=
  if_pos (status_reported status item)

end StoredItem

/-! What calls are about. -/

def StoreCall.about? : StoreCall → Option ObjectRef
  | getSchema name => some ⟨.schema, name⟩
  | updateSchema schema => some ⟨.schema, schema.name⟩
  | getMap name => some ⟨.resolverMap, name⟩
  | createMap map | updateMap map => some ⟨.resolverMap, map.name⟩
  | listSchemas | listMaps => none

def StoreCall.action : StoreCall → String
  | getSchema _ | getMap _ | listSchemas | listMaps => "reading"
  | updateSchema _ | updateMap _ | createMap _ => "writing"

namespace StoreCall

theorem about?_get (object : ObjectRef) : (get object).about? = some object := by
  obtain ⟨kind, name⟩ := object
  cases kind <;> rfl

theorem action_get (object : ObjectRef) : (get object).action = "reading" := by
  obtain ⟨kind, name⟩ := object
  cases kind <;> rfl

theorem about?_update (item : StoredItem) : (update item).about? = some item.ref := by
  cases item <;> rfl

theorem action_update (item : StoredItem) : (update item).action = "writing" := by
  cases item <;> rfl

end StoreCall

namespace Step

def Asks (action : String) (object : ObjectRef) (step : Step StoreCall.Reply σ) : Prop :=
  step.call.about? = some object ∧ step.call.action = action

def Answered (store : σ → MemoryStore) (step : Step StoreCall.Reply σ) : Prop :=
  step.reply = (MemoryStore.handle step.call (store step.before)).1

def fault? (step : Step StoreCall.Reply σ) : Option StorageFault :=
  match (step.reply : Except StorageFault step.call.Answer) with
  | .ok _ => none
  | .error fault => some fault

theorem fault?_of_error {state after : σ} {call : StoreCall} {reply : call.Reply}
    {fault : StorageFault} (failed : reply = .error fault) :
    Step.fault? ⟨state, call, reply, after⟩ = some fault := by
  rw [failed]
  rfl

theorem fault?_of_ok {state after : σ} {call : StoreCall} {reply : call.Reply} {given : call.Answer}
    (answered : reply = .ok given) : Step.fault? ⟨state, call, reply, after⟩ = none := by
  rw [answered]
  rfl

def failureAbout? (object : ObjectRef) (step : Step StoreCall.Reply σ) : Option Failure :=
  if step.call.about? = some object then
    step.fault?.map fun fault => .storage (Reporter.context step.call.action object) fault
  else none

end Step

/-- What the first failed call about an object says. -/
def failureAbout (object : ObjectRef) (steps : List (Step StoreCall.Reply σ)) : Option Failure :=
  steps.findSome? (Step.failureAbout? object)

namespace Reporter

theorem get_outcome (unreliable : UnreliableStore handler store) (object : ObjectRef) (state : σ) :
    let step : Step StoreCall.Reply σ :=
      ⟨state, .get object, (handler (.get object) state).1, (handler (.get object) state).2⟩
    store step.after = store state ∧ step.Asks "reading" object ∧
      ((∃ fault, StoreCall.got object (handler (.get object) state).1 = .error fault ∧
          step.fault? = some fault ∧ ((store state).contents object = none ∨ ¬step.Answered store)) ∨
        ∃ item, StoreCall.got object (handler (.get object) state).1 = .ok item ∧ step.fault? = none ∧
          (store state).contents object = some item) := by
  intro step
  obtain ⟨same, gets⟩ := (unreliable.answers (.get object) state).of_get
  refine ⟨same, ⟨StoreCall.about?_get object, StoreCall.action_get object⟩, ?_⟩
  cases replied : (handler (.get object) state).1 with
  | error fault =>
      refine .inl ⟨fault, StoreCall.got_eq_error_iff.2 rfl, Step.fault?_of_error replied, ?_⟩
      refine or_iff_not_imp_right.2 fun genuine => ?_
      exact MemoryStore.contents_of_get_error ((not_not.1 genuine).symm.trans replied)
  | ok given =>
      cases got : StoreCall.got object (.ok given) with
      | error fault => cases StoreCall.got_eq_error_iff.1 got
      | ok item =>
          exact .inr ⟨item, rfl, Step.fault?_of_ok replied, gets item (replied ▸ got)⟩

theorem update_outcome (unreliable : UnreliableStore handler store) {state : σ}
    {item current : StoredItem} (found : (store state).contents item.ref = some current)
    (same : item.version = current.version) :
    let step : Step StoreCall.Reply σ :=
      ⟨state, .update item, (handler (.update item) state).1, (handler (.update item) state).2⟩
    step.Asks "writing" item.ref ∧
      ((∃ fault, (handler (.update item) state).1 = .error fault ∧ step.fault? = some fault ∧
          ¬step.Answered store ∧ store step.after = store state) ∨
        ∃ updated, (handler (.update item) state).1 = .ok updated ∧ step.fault? = none ∧
          (store step.after).contents =
            (store state).contents.put (item.withVersion (nextVersion current.version))) := by
  intro step
  refine ⟨⟨StoreCall.about?_update item, StoreCall.action_update item⟩, ?_⟩
  rcases (unreliable.answers (.update item) state).of_update with
    ⟨kept, fault, failed⟩ | ⟨latest, again, -, ⟨updated, wrote⟩, changed⟩
  · refine .inl ⟨fault, failed, Step.fault?_of_error failed, fun answered => ?_, kept⟩
    obtain ⟨⟨updated, wrote⟩, -⟩ := MemoryStore.handle_update found same
    cases failed.symm.trans (answered.trans wrote)
  · cases found.symm.trans again
    refine .inr ⟨updated, wrote, Step.fault?_of_ok wrote, ?_⟩
    rw [changed, MemoryStore.contents_put]

theorem failureAbout_append (object : ObjectRef) (steps more : List (Step StoreCall.Reply σ)) :
    failureAbout object (steps ++ more) = (failureAbout object steps).or (failureAbout object more) :=
  List.findSome?_append

theorem failureAbout_of_apart {object : ObjectRef} {steps : List (Step StoreCall.Reply σ)}
    (apart : ∀ step ∈ steps, step.call.about? ≠ some object) : failureAbout object steps = none := by
  rw [failureAbout, List.findSome?_eq_none_iff]
  intro step member
  exact if_neg (apart step member)

/-! Writing one report. -/

/-- How a report is written: the calls, the failure and what the store holds then. -/
inductive Written (store : σ → MemoryStore) (report : Report) (before : Contents) :
    List (Step StoreCall.Reply σ) → Option Failure → Contents → Prop
  | unread {reading : Step StoreCall.Reply σ} {fault : StorageFault}
      (asks : reading.Asks "reading" report.object) (failed : reading.fault? = some fault)
      (lost : before report.object = none ∨ ¬reading.Answered store) :
      Written store report before [reading] (Reporter.failed "reading" report.object fault) before
  | settled {reading : Step StoreCall.Reply σ} {item : StoredItem}
      (asks : reading.Asks "reading" report.object) (answered : reading.fault? = none)
      (found : before report.object = some item) (same : item.status = report.status) :
      Written store report before [reading] none before
  | unwritten {reading writing : Step StoreCall.Reply σ} {fault : StorageFault}
      (asks : reading.Asks "reading" report.object) (answered : reading.fault? = none)
      (updates : writing.Asks "writing" report.object) (failed : writing.fault? = some fault)
      (lost : ¬writing.Answered store) :
      Written store report before [reading, writing]
        (Reporter.failed "writing" report.object fault) before
  | restated {reading writing : Step StoreCall.Reply σ} {item : StoredItem}
      (asks : reading.Asks "reading" report.object) (answered : reading.fault? = none)
      (updates : writing.Asks "writing" report.object) (finished : writing.fault? = none)
      (found : before report.object = some item) (own : item.ref = report.object)
      (differs : item.status ≠ report.status) :
      Written store report before [reading, writing] none (before.put (item.reported report.status))

theorem writeReport_written (unreliable : UnreliableStore handler store) (report : Report)
    (state : σ) :
    let run := (writeReport report).run handler state
    Written store report (store state).contents ((writeReport report).steps handler state) run.1
      (store run.2).contents := by
  obtain ⟨kept, asks, outcome⟩ := get_outcome unreliable report.object state
  simp only [writeReport, Program.run_call, Program.steps_call]
  generalize handler (.get report.object) state = opened at kept asks outcome ⊢
  rcases outcome with ⟨fault, got, failed, lost⟩ | ⟨item, got, answered, found⟩
  · simp only [got, Program.run_done, Program.steps_done]
    rw [kept]
    exact .unread asks failed lost
  · have own := MemoryStore.ref_of_contents found
    simp only [got]
    by_cases same : item.status = report.status
    · simp only [same, if_true, Program.run_done, Program.steps_done]
      rw [kept]
      exact .settled asks answered found same
    · have target : (item.withStatus report.status).ref = report.object :=
        (item.ref_withStatus report.status).trans own
      have still : (store opened.2).contents (item.withStatus report.status).ref = some item := by
        rw [kept, target, found]
      obtain ⟨updates, outcome⟩ :=
        update_outcome unreliable still (item.version_withStatus report.status)
      rw [target] at updates
      simp only [same, if_false, Program.run_call, Program.steps_call]
      generalize handler (.update (item.withStatus report.status)) opened.2 = closed
        at updates outcome ⊢
      obtain ⟨reply, closed⟩ := closed
      rcases outcome with ⟨fault, rfl, failed, lost, keptAfter⟩ | ⟨updated, rfl, finished, changed⟩
      · simp only [Program.run_done, Program.steps_done]
        rw [keptAfter, kept]
        exact .unwritten asks answered updates failed lost
      · simp only [Program.run_done, Program.steps_done]
        rw [changed, kept]
        have whole : Written store report (store state).contents _ none _ :=
          .restated asks answered updates finished found own same
        rwa [StoredItem.reported, if_neg same] at whole

namespace Written

variable {report : Report} {before after : Contents} {steps : List (Step StoreCall.Reply σ)}
  {failure : Option Failure}

theorem reads (written : Written store report before steps failure after) :
    ∃ step ∈ steps, step.Asks "reading" report.object := by
  cases written with
  | unread asks | settled asks | unwritten asks | restated asks =>
      exact ⟨_, List.mem_cons_self, asks⟩

theorem about (written : Written store report before steps failure after) :
    ∀ step ∈ steps, step.call.about? = some report.object := by
  cases written with
  | unread asks | settled asks => simpa using asks.1
  | unwritten asks _ updates | restated asks _ updates => simpa using ⟨asks.1, updates.1⟩

theorem failureAbout_eq (written : Written store report before steps failure after) :
    failureAbout report.object steps = failure := by
  cases written with
  | unread asks failed =>
      simp [failureAbout, Step.failureAbout?, asks.1, asks.2, failed, Reporter.failed]
  | settled asks answered => simp [failureAbout, Step.failureAbout?, answered]
  | unwritten asks answered updates failed =>
      simp [failureAbout, Step.failureAbout?, answered, updates.1, updates.2, failed,
        Reporter.failed]
  | restated asks answered updates finished =>
      simp [failureAbout, Step.failureAbout?, answered, finished]

theorem failureAbout_other (written : Written store report before steps failure after)
    {other : ObjectRef} (different : other ≠ report.object) : failureAbout other steps = none := by
  refine failureAbout_of_apart fun step member same => different ?_
  exact Option.some.inj (same.symm.trans (written.about step member))

theorem others (written : Written store report before steps failure after) {other : ObjectRef}
    (different : other ≠ report.object) : after other = before other := by
  cases written with
  | unread | settled | unwritten => rfl
  | @restated _ _ item _ _ _ _ found own differs =>
      refine Contents.put_of_ne before ?_
      rw [StoredItem.reported, if_neg differs, StoredItem.ref_withVersion,
        StoredItem.ref_withStatus, own]
      exact different

theorem kept (written : Written store report before steps failure after) (failed : failure ≠ none) :
    after = before := by
  cases written with
  | unread | unwritten => rfl
  | settled | restated => exact absurd rfl failed

theorem stored (written : Written store report before steps none after) :
    ∃ item, before report.object = some item ∧
      after report.object = some (item.reported report.status) := by
  cases written with
  | settled asks answered found same =>
      refine ⟨_, found, ?_⟩
      rw [StoredItem.reported, if_pos same, found]
  | @restated _ _ item _ _ _ _ found own differs =>
      refine ⟨item, found, ?_⟩
      have placed := before.put_self (item.reported report.status)
      have ref : (item.reported report.status).ref = report.object := by
        rw [StoredItem.reported, if_neg differs, StoredItem.ref_withVersion,
          StoredItem.ref_withStatus, own]
      rwa [ref] at placed

theorem eq_none (written : Written store report before steps failure after)
    (present : (before report.object).isSome)
    (answered : ∀ step ∈ steps, step.Answered store) : failure = none := by
  cases written with
  | unread asks failed lost =>
      rcases lost with missing | lost
      · rw [missing] at present
        cases present
      · exact absurd (answered _ List.mem_cons_self) lost
  | unwritten _ _ _ _ lost =>
      exact absurd (answered _ (List.mem_cons_of_mem _ List.mem_cons_self)) lost
  | settled | restated => rfl

end Written

/-! Writing a batch. -/

inductive WrittenAll (store : σ → MemoryStore) :
    List Report → Contents → List (Step StoreCall.Reply σ) → List Failure → Contents → Prop
  | nil (contents : Contents) : WrittenAll store [] contents [] [] contents
  | cons {report : Report} {reports : List Report} {before middle after : Contents}
      {steps more : List (Step StoreCall.Reply σ)} {failure : Option Failure}
      {failures : List Failure} (head : Written store report before steps failure middle)
      (rest : WrittenAll store reports middle more failures after) :
      WrittenAll store (report :: reports) before (steps ++ more) (failure.toList ++ failures) after

theorem writeAll_written (unreliable : UnreliableStore handler store) (reports : List Report)
    (failures : Failures) (state : σ) :
    let run := (writeAll failures reports).run handler state
    ∃ failed, WrittenAll store reports (store state).contents
        ((writeAll failures reports).steps handler state) failed (store run.2).contents ∧
      run.1 = failures.pushAll failed := by
  induction reports generalizing failures state with
  | nil => exact ⟨[], .nil _, rfl⟩
  | cons report reports ih =>
      have head := writeReport_written unreliable report state
      simp only [writeAll, Program.run_bind, Program.steps_bind]
      generalize (writeReport report).run handler state = first at head ⊢
      obtain ⟨failed, rest, gathered⟩ := ih (failures.pushAll first.1.toList) first.2
      refine ⟨_, .cons head rest, ?_⟩
      rw [gathered, Failures.pushAll, Failures.pushAll, Failures.pushAll, List.foldl_append]

namespace WrittenAll

variable {reports : List Report} {before after : Contents} {steps : List (Step StoreCall.Reply σ)}
  {failures : List Failure}

theorem about (written : WrittenAll store reports before steps failures after) :
    ∀ step ∈ steps, ∃ report ∈ reports, step.call.about? = some report.object := by
  induction written with
  | nil => exact fun _ member => (List.not_mem_nil member).elim
  | cons head rest ih =>
      intro step member
      rcases List.mem_append.1 member with here | later
      · exact ⟨_, List.mem_cons_self, head.about step here⟩
      · obtain ⟨report, belongs, about⟩ := ih step later
        exact ⟨report, List.mem_cons_of_mem _ belongs, about⟩

theorem others (written : WrittenAll store reports before steps failures after) {object : ObjectRef}
    (absent : object ∉ reports.map Report.object) : after object = before object := by
  induction written with
  | nil => rfl
  | cons head rest ih =>
      rw [List.map_cons, List.mem_cons, not_or] at absent
      rw [ih absent.2, head.others absent.1]

theorem failureAbout_of_absent (written : WrittenAll store reports before steps failures after)
    {object : ObjectRef} (absent : object ∉ reports.map Report.object) :
    failureAbout object steps = none := by
  refine failureAbout_of_apart fun step member same => ?_
  obtain ⟨report, belongs, about⟩ := written.about step member
  cases about.symm.trans same
  exact absent (List.mem_map_of_mem belongs)

theorem each (written : WrittenAll store reports before steps failures after)
    (distinct : (reports.map Report.object).Nodup) :
    ∀ report ∈ reports, ∃ first last own,
      Written store report first own (failureAbout report.object steps) last ∧ own ⊆ steps ∧
        first report.object = before report.object ∧ last report.object = after report.object := by
  induction written with
  | nil => exact fun _ member => (List.not_mem_nil member).elim
  | @cons report reports before middle after steps more failure failures head rest ih =>
      rw [List.map_cons, List.nodup_cons] at distinct
      refine List.forall_mem_cons.2 ⟨?_, fun other member => ?_⟩
      · refine ⟨before, middle, steps, ?_, List.subset_append_left _ _, rfl, ?_⟩
        · rw [failureAbout_append, rest.failureAbout_of_absent distinct.1, Option.or_none,
            head.failureAbout_eq]
          exact head
        · exact (rest.others distinct.1).symm
      · -- The calls for the first report are about another object, and leave this one alone.
        have different : other.object ≠ report.object := fun same =>
          distinct.1 (same ▸ List.mem_map_of_mem member)
        obtain ⟨first, last, own, alone, inside, start, stop⟩ := ih distinct.2 other member
        refine ⟨first, last, own, ?_, List.subset_append_of_subset_right _ inside, ?_, stop⟩
        · rwa [failureAbout_append, head.failureAbout_other different, Option.none_or]
        · rw [start, head.others different]

theorem failures_eq (written : WrittenAll store reports before steps failures after)
    (distinct : (reports.map Report.object).Nodup) :
    failures = reports.filterMap fun report => failureAbout report.object steps := by
  induction written with
  | nil => rfl
  | @cons report reports before middle after steps more failure failures head rest ih =>
      rw [List.map_cons, List.nodup_cons] at distinct
      have own : failureAbout report.object (steps ++ more) = failure := by
        rw [failureAbout_append, rest.failureAbout_of_absent distinct.1, Option.or_none,
          head.failureAbout_eq]
      have later : ∀ other ∈ reports, failureAbout other.object (steps ++ more) =
          failureAbout other.object more := by
        intro other member
        rw [failureAbout_append, head.failureAbout_other, Option.none_or]
        exact fun same => distinct.1 (same ▸ List.mem_map_of_mem member)
      rw [List.filterMap_cons, own, List.filterMap_congr later, ← ih distinct.2]
      cases failure <;> rfl

theorem single (written : WrittenAll store reports before steps failures after) :
    ∀ failure ∈ failures, failure.Single := by
  induction written with
  | nil => exact fun _ member => (List.not_mem_nil member).elim
  | cons head rest ih =>
      rw [List.forall_mem_append]
      refine ⟨fun failure member => ?_, ih⟩
      cases head with
      | unread | unwritten =>
          cases List.mem_singleton.1 member
          rfl
      | settled | restated => exact (List.not_mem_nil member).elim

end WrittenAll

theorem writeReports_written (unreliable : UnreliableStore handler store) (reports : List Report)
    (state : σ) :
    let run := (writeReports reports).run handler state
    ∃ failures, WrittenAll store reports (store state).contents
        ((writeReports reports).steps handler state) failures (store run.2).contents ∧
      (failureOf run.1).flatMap Failure.causes = failures ∧ (run.1 = .ok () ↔ failures = []) := by
  obtain ⟨failures, written, gathered⟩ := writeAll_written unreliable reports {} state
  have causes : ((writeAll {} reports).run handler state).1.causes = failures := by
    rw [gathered, Failures.causes_pushAll, List.nil_append, flatMap_causes_of_single written.single]
  have whole : (writeReports reports).run handler state =
      (((writeAll {} reports).run handler state).1.toResult,
        ((writeAll {} reports).run handler state).2) := by
    rw [writeReports, Program.run_bind, Program.run_done]
  have calls : (writeReports reports).steps handler state =
      (writeAll {} reports).steps handler state := by
    rw [writeReports, Program.steps_bind, Program.steps_done, List.append_nil]
  refine ⟨failures, ?_, ?_, ?_⟩
  · rw [whole, calls]
    exact written
  · rw [whole, failureOf_toResult, Failures.causes_toFailure?, causes]
    rw [causes]
    exact written.single
  · rw [whole, Failures.toResult_eq_ok_iff, causes]

theorem reliable : UnreliableStore MemoryStore.handle id := fun _ _ => .inl ⟨rfl, rfl⟩

theorem stored_writeReports {reports : List Report} (distinct : (reports.map Report.object).Nodup)
    (memory : MemoryStore) {report : Report} (member : report ∈ reports) {item : StoredItem}
    (found : memory.contents report.object = some item) :
    ((writeReports reports).run MemoryStore.handle memory).2.contents report.object =
      some (item.reported report.status) := by
  obtain ⟨failures, written, -, -⟩ := writeReports_written reliable reports memory
  obtain ⟨first, last, own, alone, inside, start, stop⟩ := written.each distinct report member
  have present : first report.object = some item := start.trans found
  have succeeded : failureAbout report.object
      ((writeReports reports).steps MemoryStore.handle memory) = none := by
    refine alone.eq_none (by rw [present]; rfl) fun step here => ?_
    exact (congrArg Prod.fst (Program.handled_of_mem_steps (inside here))).symm
  rw [succeeded] at alone
  obtain ⟨same, there, reported⟩ := alone.stored
  cases present.symm.trans there
  exact stop.symm.trans reported

/-- Every report is tried, and has its effect on its own object or a failure of its own, whatever
becomes of the others. Writing the reports once more changes no object that has its status. -/
theorem writeReports_each (unreliable : UnreliableStore handler store) {reports : List Report}
    (distinct : (reports.map Report.object).Nodup) (state : σ) :
    let steps := (writeReports reports).steps handler state
    let run := (writeReports reports).run handler state
    let again := (writeReports reports).run MemoryStore.handle (store run.2)
    let before := (store state).contents
    let after := (store run.2).contents
    (∀ report ∈ reports,
      (∃ step ∈ steps, step.Asks "reading" report.object) ∧
      ((before report.object).isSome →
        (∀ step ∈ steps, step.call.about? = some report.object → step.Answered store) →
          failureAbout report.object steps = none) ∧
      (failureAbout report.object steps = none → ∃ item, before report.object = some item ∧
        after report.object = some (item.reported report.status) ∧
        again.2.contents report.object = after report.object) ∧
      (failureAbout report.object steps ≠ none → after report.object = before report.object)) ∧
    (∀ object, object ∉ reports.map Report.object → after object = before object) ∧
    (failureOf run.1).flatMap Failure.causes =
      (reports.filterMap fun report => failureAbout report.object steps) ∧
    (run.1 = .ok () ↔ ∀ report ∈ reports, failureAbout report.object steps = none) := by
  intro steps run again before after
  obtain ⟨failures, written, causes, succeeded⟩ := writeReports_written unreliable reports state
  have gathered := written.failures_eq distinct
  refine ⟨fun report member => ?_, fun object absent => written.others absent,
    causes.trans gathered, ?_⟩
  · obtain ⟨first, last, own, alone, inside, start, stop⟩ := written.each distinct report member
    refine ⟨?_, fun present answered => ?_, fun finished => ?_, fun failed => ?_⟩
    · obtain ⟨step, here, asks⟩ := alone.reads
      exact ⟨step, inside here, asks⟩
    · refine alone.eq_none (by rwa [start]) fun step here => ?_
      exact answered step (inside here) (alone.about step here)
    · rw [finished] at alone
      obtain ⟨item, found, reported⟩ := alone.stored
      have now : after report.object = some (item.reported report.status) := stop.symm.trans reported
      refine ⟨item, start.symm.trans found, now, ?_⟩
      rw [now, ← item.reported_reported report.status]
      exact stored_writeReports distinct (store run.2) member now
    · have kept := alone.kept failed
      calc
        after report.object = last report.object := stop.symm
        _ = first report.object := by rw [kept]
        _ = before report.object := start
  · rw [succeeded, gathered, List.filterMap_eq_nil_iff]

end Reporter

theorem Site.unreliable {ω : Type} : UnreliableStore handleStore (Site.store (ω := ω)) := by
  rintro call ⟨store, faults, table, operator⟩
  match faults with
  | some fault :: faults => exact .inr ⟨fault, rfl, rfl⟩
  | none :: faults => exact .inl ⟨rfl, rfl⟩
  | [] => exact .inl ⟨rfl, rfl⟩

def failingSite : Site Unit where
  store :=
    (({} : MemoryStore).putSchema { name := "orders", source := "", resolverMap := "calls" }).putMap
      { name := "calls" }
  faults := [none, none, some (.io "disk full")]
  operator := ()

/-- A report about nothing, one that cannot be written, and one that is written all the same. -/
def mixedReports : List Report :=
  [⟨⟨.schema, "gone"⟩, none⟩, ⟨⟨.schema, "orders"⟩, none⟩, ⟨⟨.resolverMap, "calls"⟩, none⟩]

theorem mixedReports_written :
    let run := (Reporter.writeReports mixedReports).run Site.handleStore failingSite
    (mixedReports.map Report.object).Nodup ∧
      (failureOf run.1).flatMap Failure.causes =
        [.storage "reading status of schema gone" (.notFound .schema "gone"),
          .storage "writing status of schema orders" (.io "disk full")] ∧
      run.2.store.contents ⟨.schema, "orders"⟩ = failingSite.store.contents ⟨.schema, "orders"⟩ ∧
      ∃ item, failingSite.store.contents ⟨.resolverMap, "calls"⟩ = some item ∧
        run.2.store.contents ⟨.resolverMap, "calls"⟩ = some (item.reported .accepted) := by
  intro run
  have distinct : (mixedReports.map Report.object).Nodup := by decide
  obtain ⟨each, -, causes, -⟩ := Reporter.writeReports_each Site.unreliable distinct failingSite
  have orders := each ⟨⟨.schema, "orders"⟩, none⟩ (by simp [mixedReports])
  have calls := each ⟨⟨.resolverMap, "calls"⟩, none⟩ (by simp [mixedReports])
  refine ⟨distinct, causes, orders.2.2.2 (fun absent => nomatch absent), ?_⟩
  obtain ⟨item, found, written, -⟩ := calls.2.2.1 rfl
  exact ⟨item, found, written⟩

def lastCalls : ResolverMap where
  name := "calls"
  version := UInt64.size - 1

/-- The report brings the map to its status, and its version has not been raised by one. -/
theorem lastCalls_version_starts_over :
    let store := ({} : MemoryStore).putMap lastCalls
    let calls : ObjectRef := ⟨.resolverMap, "calls"⟩
    let run := (Reporter.writeReports [⟨calls, none⟩]).run MemoryStore.handle store
    store.contents calls = some (.resolverMap lastCalls) ∧ run.1 = .ok () ∧
      run.2.contents calls = some (.resolverMap { lastCalls with version := 0, status := .accepted }) ∧
      (run.2.contents calls).map StoredItem.version ≠ some (lastCalls.version + 1) := by
  exact ⟨by decide +kernel, rfl, by decide +kernel, by decide +kernel⟩

end GatewayControl
