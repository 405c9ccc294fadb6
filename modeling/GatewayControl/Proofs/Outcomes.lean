import GatewayControl.Proofs.Derivation
import GatewayControl.Proofs.Passes

/-!
What a pass comes to, whatever fails in it. The store, the operator of the proxy and the reporter may
be anything that answers calls, so every pattern of failures is one of a run here. A pass takes all of
its steps in every run, and its result holds each cause of a failure once.
-/

namespace GatewayControl

variable {ω : Type}

/-! The failures of reports and of the reporter hold no nested ones. -/

theorem flat_of_reported {handler : Handler DeriveCall.Reply ω} {proxy : Proxy} {snapshot : Snapshot}
    {state : ω} {report : Report} {failure : Failure}
    (member : report ∈ ((deriveEndpoints proxy snapshot).run handler state).1.reports)
    (failed : report.failure = some failure) : failure.Flat := by
  rw [reports_deriveEndpoints_eq, List.mem_append] at member
  rcases member with ofSchema | ofMap
  · rw [schemaReports] at ofSchema
    obtain ⟨outcome, belongs, rfl⟩ := List.mem_map.1 ofSchema
    obtain ⟨position, found⟩ := List.mem_iff_getElem?.1 belongs
    rw [getElem?_outcomesFrom] at found
    obtain ⟨schema, -, rfl⟩ := Option.map_eq_some_iff.1 found
    exact (schemaFailure_ofSchema failed).single.flat
  · obtain ⟨map, -, rfl⟩ := List.mem_map.1 ofMap
    have single : ∀ cause ∈ (⟨buildCauses proxy snapshot map⟩ : Failures).causes, cause.Single := by
      intro cause built
      obtain ⟨fault, -, rfl⟩ := List.mem_map.1 built
      rfl
    exact Failures.flat_of_toFailure? single failed

theorem single_of_reported {handler : Handler DeriveCall.Reply ω} {proxy : Proxy} {snapshot : Snapshot}
    {state : ω} : ∀ cause ∈ ((deriveEndpoints proxy snapshot).run handler state).1.reports.flatMap
      Report.causes, cause.Single := by
  intro cause member
  obtain ⟨report, reported, caused⟩ := List.mem_flatMap.1 member
  rw [Report.causes] at caused
  obtain ⟨failure, failed, inside⟩ := List.mem_flatMap.1 caused
  exact flat_of_reported reported (Option.mem_toList.1 failed) cause inside

namespace Reporter

theorem writeReport_single {σ : Type} (handler : StoreHandler σ) (report : Report) (state : σ) :
    ∀ failure ∈ ((writeReport report).run handler state).1.toList, failure.Single := by
  have failed_single : ∀ action fault, ∀ failure ∈ (failed action report.object fault).toList,
      failure.Single := by
    intro action fault failure member
    cases List.mem_singleton.1 member
    rfl
  simp only [writeReport, Program.run_call]
  split
  · exact failed_single _ _
  · split
    · exact fun _ member => (List.not_mem_nil member).elim
    · simp only [Program.run_call]
      split
      · exact failed_single _ _
      · exact fun _ member => (List.not_mem_nil member).elim

theorem writeAll_single {σ : Type} (handler : StoreHandler σ) (reports : List Report) :
    ∀ (failures : Failures) (state : σ), (∀ cause ∈ failures.causes, cause.Single) →
      ∀ cause ∈ ((writeAll failures reports).run handler state).1.causes, cause.Single := by
  induction reports with
  | nil => exact fun failures state single => single
  | cons report reports ih =>
      intro failures state single
      rw [writeAll, Program.run_bind]
      apply ih
      rw [Failures.causes_pushAll, List.forall_mem_append]
      refine ⟨single, ?_⟩
      intro cause member
      obtain ⟨failure, failed, inside⟩ := List.mem_flatMap.1 member
      exact (writeReport_single handler report state failure failed).flat cause inside

theorem writeReports_flat {σ : Type} {handler : StoreHandler σ} {reports : List Report} {state : σ}
    {failure : Failure}
    (failed : ((writeReports reports).run handler state).1 = .error failure) : failure.Flat := by
  rw [writeReports, Program.run_bind, Program.run_done] at failed
  have single := writeAll_single handler reports {} state fun _ member =>
    (List.not_mem_nil member).elim
  refine Failures.flat_of_toFailure? single ?_
  rw [Failures.toResult] at failed
  split at failed
  · cases failed
  · rename_i gathered
    cases failed
    exact gathered

end Reporter

/-! The steps of a pass. -/

theorem steps_reconcile {σ : Type} (handler : Handler PassCall.Reply σ) (proxy : Proxy)
    (snapshot : Snapshot) (state : σ) :
    let derivation := (deriveEndpoints proxy snapshot).run (fun call => handler (.derive call)) state
    let served := handler (.serve derivation.1.endpoints) derivation.2
    let written := handler (.writeReports derivation.1.reports) served.2
    let closed := handler .reconfigure written.2
    (reconcile proxy snapshot).steps handler state =
      ((deriveEndpoints proxy snapshot).steps (fun call => handler (.derive call)) state).map
          (Step.embed PassCall.derive) ++
        [⟨derivation.2, .serve derivation.1.endpoints, served.1, served.2⟩,
          ⟨served.2, .writeReports derivation.1.reports, written.1, written.2⟩,
          ⟨written.2, .reconfigure, closed.1, closed.2⟩] := by
  rw [reconcile, Program.steps_bind, Program.steps_embed, Program.run_embed]
  rfl

theorem run_reconcile {σ : Type} (handler : Handler PassCall.Reply σ) (proxy : Proxy)
    (snapshot : Snapshot) (state : σ) :
    let derivation := (deriveEndpoints proxy snapshot).run (fun call => handler (.derive call)) state
    let written := handler (.writeReports derivation.1.reports)
      (handler (.serve derivation.1.endpoints) derivation.2).2
    let closed := handler .reconfigure written.2
    (reconcile proxy snapshot).run handler state =
      (((gatherReported derivation.1.reports).pushAll
        (derivation.1.failures ++ failureOf written.1 ++ operatorFailureOf closed.1)).toResult,
          closed.2) := by
  rw [reconcile, Program.run_bind, Program.run_embed]
  rfl

theorem single_registrationFailures (registrations : List (ResolverMap × Except OperatorFault Unit)) :
    ∀ failure ∈ registrations.filterMap registrationFailure?, failure.Single := by
  intro failure member
  obtain ⟨⟨map, reply⟩, -, failed⟩ := List.mem_filterMap.1 member
  cases reply with
  | ok _ => cases failed
  | error fault =>
      cases failed
      rfl

theorem single_operatorFailureOf (reply : Except OperatorFault Unit) :
    ∀ failure ∈ operatorFailureOf reply, failure.Single := by
  intro failure member
  cases reply with
  | ok _ => exact (List.not_mem_nil member).elim
  | error fault =>
      cases List.mem_singleton.1 member
      rfl

theorem mem_failureOf {reply : Except Failure Unit} {failure : Failure} :
    failure ∈ failureOf reply ↔ reply = .error failure := by
  cases reply with
  | ok _ => simp [failureOf]
  | error other => simp [failureOf, eq_comm]

theorem failureOf_toResult (failures : Failures) :
    failureOf failures.toResult = failures.toFailure?.toList := by
  rw [Failures.toResult]
  cases failures.toFailure? <;> rfl

theorem flatMap_causes_of_single {failures : List Failure}
    (single : ∀ failure ∈ failures, failure.Single) : failures.flatMap Failure.causes = failures := by
  induction failures with
  | nil => rfl
  | cons failure failures ih =>
      obtain ⟨first, rest⟩ := List.forall_mem_cons.1 single
      rw [List.flatMap_cons, first, ih rest, List.singleton_append]

/-! A pass with any collaborators. -/

/-- What a pass calls: a store, an operator of the proxy, and a reporter, which need not write to that
store. -/
structure Collaborators (ω : Type) where
  store : StoreHandler ω
  operator : OperatorHandler ω
  report : List Report → ω → Except Failure Unit × ω
  report_flat : ∀ reports world failure, (report reports world).1 = .error failure → failure.Flat

structure Serving (ω : Type) where
  world : ω
  table : EndpointTable := {}

def Serving.within {α : Type} (act : ω → α × ω) (serving : Serving ω) : α × Serving ω :=
  ((act serving.world).1, { serving with world := (act serving.world).2 })

theorem Serving.run_within {Call α : Type} {Reply : Call → Type} (handler : Handler Reply ω)
    (program : Program Reply α) (serving : Serving ω) :
    program.run (fun call => Serving.within (handler call)) serving =
      serving.within (program.run handler) := by
  induction program generalizing serving with
  | done value => rfl
  | call request next ih => exact ih _ _

namespace Collaborators

variable (collaborators : Collaborators ω)

def derive : Handler DeriveCall.Reply (Serving ω) := fun call =>
  Serving.within (deriveHandler collaborators.store collaborators.operator call)

def handle : Handler PassCall.Reply (Serving ω)
  | .derive call, serving => collaborators.derive call serving
  | .serve endpoints, serving => ((), { serving with table := .ofEndpoints endpoints })
  | .writeReports reports, serving => serving.within (collaborators.report reports)
  | .reconfigure, serving => serving.within (collaborators.operator .reconfigure)

/-- Those of a pass that reports to the store it reads. -/
def storing (store : StoreHandler ω) (operator : OperatorHandler ω) : Collaborators ω where
  store
  operator
  report reports := (Reporter.writeReports reports).run store
  report_flat _ _ _ := Reporter.writeReports_flat

theorem handle_storing (store : StoreHandler ω) (operator : OperatorHandler ω) :
    (storing store operator).handle =
      passHandler (fun call => Serving.within (store call))
        (fun call => Serving.within (operator call))
        (fun endpoints serving => { serving with table := .ofEndpoints endpoints })
        fun _ serving => serving := by
  funext call serving
  cases call with
  | derive call => cases call <;> rfl
  | serve endpoints => rfl
  | writeReports reports => exact (Serving.run_within store _ serving).symm
  | reconfigure => rfl

theorem table_derived (proxy : Proxy) (snapshot : Snapshot) (serving : Serving ω) :
    ((deriveEndpoints proxy snapshot).run collaborators.derive serving).2.table = serving.table :=
  Program.holds_at_end _ (fun after : Serving ω => after.table = serving.table) rfl
    fun _ _ same => same

end Collaborators

/-- A pass takes every step once and accounts for every failure once, whatever fails. It derives, then
serves exactly the endpoints of the snapshot, then hands over all reports, then reconfigures the
proxy. Its result fails for the causes of the reports in their order, those of the registrations in
the order of the snapshot, those of the reporter and that of the reconfiguration, none of them nested
in another failure, and succeeds exactly if there are none. -/
theorem reconcile_accounts (collaborators : Collaborators ω) (proxy : Proxy) (snapshot : Snapshot)
    (serving : Serving ω) :
    let calls := (deriveEndpoints proxy snapshot).steps collaborators.derive serving
    let derivation := (deriveEndpoints proxy snapshot).run collaborators.derive serving
    let registrations := calls.filterMap Step.registration?
    let run := (reconcile proxy snapshot).run collaborators.handle serving
    let served := { derivation.2 with table := .ofEndpoints derivation.1.endpoints }
    derivation.1.endpoints = snapshot.schemas.filterMap (endpointOf? proxy snapshot) ∧
    registrations.map Prod.fst = snapshot.schemas.filterMap (servedMap? proxy snapshot) ∧
    derivation.2.table = serving.table ∧ run.2.table = served.table ∧
    ∃ written reported reconfigured,
      (reconcile proxy snapshot).steps collaborators.handle serving =
        calls.map (Step.embed PassCall.derive) ++
          [⟨derivation.2, .serve derivation.1.endpoints, (), served⟩,
            ⟨served, .writeReports derivation.1.reports, written, reported⟩,
            ⟨reported, .reconfigure, reconfigured, run.2⟩] ∧
      let causes := derivation.1.reports.flatMap Report.causes ++
        registrations.filterMap registrationFailure? ++
        (failureOf written).flatMap Failure.causes ++ operatorFailureOf reconfigured
      (failureOf run.1).flatMap Failure.causes = causes ∧ (∀ cause ∈ causes, cause.Single) ∧
        (run.1 = .ok () ↔ causes = []) := by
  intro calls derivation registrations run served
  let written := collaborators.handle (.writeReports derivation.1.reports) served
  let closed := collaborators.handle .reconfigure written.2
  let failures := (gatherReported derivation.1.reports).pushAll
    (derivation.1.failures ++ failureOf written.1 ++ operatorFailureOf closed.1)
  have result : run = (failures.toResult, closed.2) :=
    run_reconcile collaborators.handle proxy snapshot serving
  refine ⟨endpoints_deriveEndpoints serving, ?_, collaborators.table_derived proxy snapshot serving, ?_,
    written.1, written.2, closed.1, ?_, ?_⟩
  · rw [show registrations = _ from registrations_deriveEndpoints serving, map_fst_registrationsFrom]
  · rw [result]
    rfl
  · rw [result]
    exact steps_reconcile collaborators.handle proxy snapshot serving
  · intro causes
    have registered : derivation.1.failures = registrations.filterMap registrationFailure? :=
      failures_deriveEndpoints serving
    have registerSingle := single_registrationFailures registrations
    have closedSingle := single_operatorFailureOf closed.1
    have gathered : failures.causes = causes := by
      rw [Failures.causes_pushAll, causes_gatherReported, List.flatMap_append, List.flatMap_append,
        registered, flatMap_causes_of_single registerSingle, flatMap_causes_of_single closedSingle]
      simp only [causes, List.append_assoc]
    have writtenSingle : ∀ cause ∈ (failureOf written.1).flatMap Failure.causes, cause.Single := by
      intro cause member
      obtain ⟨failure, failed, inside⟩ := List.mem_flatMap.1 member
      exact collaborators.report_flat _ _ failure (mem_failureOf.1 failed) cause inside
    have single : ∀ cause ∈ causes, cause.Single := by
      simp only [causes, List.forall_mem_append]
      exact ⟨⟨⟨single_of_reported, registerSingle⟩, writtenSingle⟩, closedSingle⟩
    refine ⟨?_, single, ?_⟩
    · rw [← gathered] at single
      rw [result, ← gathered, failureOf_toResult, Failures.causes_toFailure? single]
    · rw [result, ← gathered]
      exact Failures.toResult_eq_ok_iff

end GatewayControl
