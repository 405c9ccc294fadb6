import GatewayControl.Proofs.Gathering

/-!
How failures are made and gathered. An accumulator is filled step by step with failures that stand
alone or were gathered themselves, to any depth. It holds the failures that stand alone at the ends,
from left to right, so in which groups they were gathered before makes no difference.
-/

namespace GatewayControl

theorem Failure.single_iff {failure : Failure} :
    failure.Single ↔ ∀ causes, failure ≠ .several causes := by
  cases failure with
  | several own =>
      refine ⟨fun single => ?_, fun plain => absurd rfl (plain own)⟩
      -- A failure is larger than the causes that it holds, so it is not one of them.
      have same : own = [Failure.several own] := single
      have sizes := congrArg sizeOf same
      simp only [List.cons.sizeOf_spec, List.nil.sizeOf_spec, Failure.several.sizeOf_spec] at sizes
      omega
  | invalidName | schemaParse | mapNotFound | build | storage | watch | operator =>
      exact ⟨fun _ _ => nofun, fun _ => rfl⟩

mutual

inductive Origin
  | alone (failure : Failure) (single : failure.Single)
  /-- What is in an accumulator, as one failure. -/
  | gathered (steps : List Filling)

inductive Filling
  | push (origin : Origin)
  | extend (origins : List Origin)
  /-- Another accumulator is filled first, and pushed as one failure if anything is in it. -/
  | group (parts : List Filling)

end

mutual

def Origin.failure : Origin → Failure
  | .alone failure _ => failure
  | .gathered steps => .several (Filling.fill steps {}).causes

def Origin.failures : List Origin → List Failure
  | [] => []
  | origin :: origins => origin.failure :: Origin.failures origins

def Filling.apply : Filling → Failures → Failures
  | .push origin, failures => failures.push origin.failure
  | .extend origins, failures => failures.pushAll (Origin.failures origins)
  | .group parts, failures =>
    match (Filling.fill parts {}).toFailure? with
    | none => failures
    | some failure => failures.push failure

def Filling.fill : List Filling → Failures → Failures
  | [], failures => failures
  | step :: steps, failures => Filling.fill steps (step.apply failures)

end

mutual

/-- The failures that stand alone at the ends, from left to right. -/
def Origin.leaves : Origin → List Failure
  | .alone failure _ => [failure]
  | .gathered steps => Filling.allLeaves steps

def Origin.allLeaves : List Origin → List Failure
  | [] => []
  | origin :: origins => origin.leaves ++ Origin.allLeaves origins

def Filling.leaves : Filling → List Failure
  | .push origin => origin.leaves
  | .extend origins => Origin.allLeaves origins
  | .group parts => Filling.allLeaves parts

def Filling.allLeaves : List Filling → List Failure
  | [] => []
  | step :: steps => step.leaves ++ Filling.allLeaves steps

end

mutual

/-- The failures that a step pushes, without the groups that it pushes them in. -/
def Filling.pushed : Filling → List Origin
  | .push origin => [origin]
  | .extend origins => origins
  | .group parts => Filling.allPushed parts

def Filling.allPushed : List Filling → List Origin
  | [] => []
  | step :: steps => step.pushed ++ Filling.allPushed steps

end

mutual

theorem Origin.single_leaves (origin : Origin) : ∀ leaf ∈ origin.leaves, leaf.Single := by
  cases origin with
  | alone failure single =>
      intro leaf member
      rw [List.mem_singleton.1 member]
      exact single
  | gathered steps => exact Filling.single_allLeaves steps

theorem Origin.single_allLeaves (origins : List Origin) :
    ∀ leaf ∈ Origin.allLeaves origins, leaf.Single := by
  cases origins with
  | nil => exact fun _ member => (List.not_mem_nil member).elim
  | cons origin origins =>
      rw [Origin.allLeaves, List.forall_mem_append]
      exact ⟨origin.single_leaves, Origin.single_allLeaves origins⟩

theorem Filling.single_leaves (step : Filling) : ∀ leaf ∈ step.leaves, leaf.Single := by
  cases step with
  | push origin => exact origin.single_leaves
  | extend origins => exact Origin.single_allLeaves origins
  | group parts => exact Filling.single_allLeaves parts

theorem Filling.single_allLeaves (steps : List Filling) :
    ∀ leaf ∈ Filling.allLeaves steps, leaf.Single := by
  cases steps with
  | nil => exact fun _ member => (List.not_mem_nil member).elim
  | cons step steps =>
      rw [Filling.allLeaves, List.forall_mem_append]
      exact ⟨step.single_leaves, Filling.single_allLeaves steps⟩

end

mutual

theorem Origin.causes_failure (origin : Origin) : origin.failure.causes = origin.leaves := by
  cases origin with
  | alone failure single => exact single
  | gathered steps => exact Filling.causes_fill steps {}

theorem Origin.causes_failures (origins : List Origin) :
    (Origin.failures origins).flatMap Failure.causes = Origin.allLeaves origins := by
  cases origins with
  | nil => rfl
  | cons origin origins =>
      rw [Origin.failures, List.flatMap_cons, origin.causes_failure, Origin.causes_failures origins,
        Origin.allLeaves]

theorem Filling.causes_apply (step : Filling) (failures : Failures) :
    (step.apply failures).causes = failures.causes ++ step.leaves := by
  cases step with
  | push origin => rw [Filling.apply, Failures.push, origin.causes_failure, Filling.leaves]
  | extend origins =>
      rw [Filling.apply, Failures.causes_pushAll, Origin.causes_failures, Filling.leaves]
  | group parts =>
      have inner : (Filling.fill parts {}).causes = Filling.allLeaves parts :=
        Filling.causes_fill parts {}
      have collapsed : (Filling.fill parts {}).toFailure?.toList.flatMap Failure.causes =
          Filling.allLeaves parts := by
        rw [Failures.causes_toFailure? (inner ▸ Filling.single_allLeaves parts), inner]
      rw [Filling.apply, Filling.leaves, ← collapsed]
      cases (Filling.fill parts {}).toFailure? with
      | none => exact (List.append_nil _).symm
      | some failure => simp [Failures.push]

theorem Filling.causes_fill (steps : List Filling) (failures : Failures) :
    (Filling.fill steps failures).causes = failures.causes ++ Filling.allLeaves steps := by
  cases steps with
  | nil => exact (List.append_nil _).symm
  | cons step steps =>
      rw [Filling.fill, Filling.causes_fill steps, step.causes_apply, Filling.allLeaves,
        List.append_assoc]

end

theorem Origin.flat (origin : Origin) : origin.failure.Flat := by
  intro cause member
  rw [origin.causes_failure] at member
  exact origin.single_leaves cause member

namespace Origin

theorem failures_eq_map (origins : List Origin) : failures origins = origins.map failure := by
  induction origins with
  | nil => rfl
  | cons origin origins ih => rw [failures, ih, List.map_cons]

theorem allLeaves_append (origins others : List Origin) :
    allLeaves (origins ++ others) = allLeaves origins ++ allLeaves others := by
  induction origins with
  | nil => rfl
  | cons origin origins ih =>
      rw [List.cons_append, allLeaves, ih, allLeaves, List.append_assoc]

end Origin

mutual

theorem Filling.leaves_pushed (step : Filling) : Origin.allLeaves step.pushed = step.leaves := by
  cases step with
  | push origin => exact List.append_nil _
  | extend origins => rfl
  | group parts => exact Filling.leaves_allPushed parts

theorem Filling.leaves_allPushed (steps : List Filling) :
    Origin.allLeaves (Filling.allPushed steps) = Filling.allLeaves steps := by
  cases steps with
  | nil => rfl
  | cons step steps =>
      rw [Filling.allPushed, Origin.allLeaves_append, step.leaves_pushed,
        Filling.leaves_allPushed steps, Filling.allLeaves]

end

theorem Filling.fill_eq_pushAll (steps : List Filling) (failures : Failures) :
    fill steps failures = failures.pushAll ((allPushed steps).map Origin.failure) := by
  have causes : (fill steps failures).causes =
      (failures.pushAll ((allPushed steps).map Origin.failure)).causes := by
    rw [causes_fill, Failures.causes_pushAll, ← Origin.failures_eq_map, Origin.causes_failures,
      leaves_allPushed]
  exact congrArg Failures.mk causes

/-- However an accumulator is filled, none of its causes is a gathered failure, and its causes are the
failures that stand alone at the ends, from left to right. In which groups they were pushed shows
nowhere: the causes, their number, the message and the result are those of pushing one by one. -/
theorem Filling.grouping_immaterial (steps : List Filling) :
    (∀ cause ∈ (fill steps {}).causes, ∀ causes, cause ≠ .several causes) ∧
    (fill steps {}).causes = allLeaves steps ∧
    let oneByOne : Failures := ({} : Failures).pushAll ((allPushed steps).map Origin.failure)
    (fill steps {}).causes = oneByOne.causes ∧
    (fill steps {}).causes.length = oneByOne.causes.length ∧
    (fill steps {}).message = oneByOne.message ∧
    (fill steps {}).toResult = oneByOne.toResult := by
  have causes : (fill steps {}).causes = allLeaves steps := causes_fill steps {}
  refine ⟨?_, causes, ?_⟩
  · intro cause member
    rw [causes] at member
    exact Failure.single_iff.1 (single_allLeaves steps cause member)
  · intro oneByOne
    have same : fill steps {} = oneByOne := fill_eq_pushAll steps {}
    rw [same]
    exact ⟨rfl, rfl, rfl, rfl⟩

end GatewayControl
