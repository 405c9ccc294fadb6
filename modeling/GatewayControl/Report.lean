import GatewayControl.Failure
import GatewayControl.Status

/-!
Reports: the outcome of a pass for one stored object, and the failures of resolver maps gathered
over all schemas that use them.
-/

namespace GatewayControl

structure Report where
  object : ObjectRef
  failure : Option Failure

namespace Report

def isAccepted (report : Report) : Bool := report.failure.isNone

def status (report : Report) : Status :=
  match report.failure with
  | none => .accepted
  | some failure => .rejected failure.message

end Report

def gatherReported (reports : List Report) : Failures :=
  ({} : Failures).pushAll (reports.filterMap Report.failure)

/-- Failures by resolver map, in the order of the maps' first failures. -/
structure MapFailures where
  entries : List (String × Failures) := []

namespace MapFailures

def recordIn (map : String) (failure : Failure) :
    List (String × Failures) → List (String × Failures)
  | [] => [(map, ({} : Failures).push failure)]
  | (other, failures) :: rest =>
    if map = other then (other, failures.push failure) :: rest
    else (other, failures) :: recordIn map failure rest

def record (failures : MapFailures) (map : String) (failure : Failure) : MapFailures :=
  ⟨recordIn map failure failures.entries⟩

def recordAll (failures : MapFailures) (records : List (String × Failure)) : MapFailures :=
  records.foldl (fun failures (map, failure) => failures.record map failure) failures

def size (failures : MapFailures) : Nat := failures.entries.length

def isEmpty (failures : MapFailures) : Bool := failures.entries.isEmpty

def reports (failures : MapFailures) : List Report :=
  failures.entries.filterMap fun (map, failures) =>
    failures.toFailure?.map fun failure => ⟨⟨.resolverMap, map⟩, some failure⟩

end MapFailures

end GatewayControl
