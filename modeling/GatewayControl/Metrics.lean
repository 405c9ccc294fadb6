import GatewayControl.Report

/-!
Counts of what passes have done, in the text form that a monitor collects.
-/

namespace GatewayControl

structure Metrics where
  acceptedPasses : Nat := 0
  failedPasses : Nat := 0
  endpoints : Option Nat := none
  /-- How many reports there were of each kind of object, accepted and rejected. -/
  reports : List ((ObjectKind × Bool) × Nat) := []

namespace Metrics

def recordPass (metrics : Metrics) (accepted : Bool) : Metrics :=
  if accepted then { metrics with acceptedPasses := metrics.acceptedPasses + 1 }
  else { metrics with failedPasses := metrics.failedPasses + 1 }

def recordEndpoints (metrics : Metrics) (count : Nat) : Metrics :=
  { metrics with endpoints := some count }

def countIn (key : ObjectKind × Bool) :
    List ((ObjectKind × Bool) × Nat) → List ((ObjectKind × Bool) × Nat)
  | [] => [(key, 1)]
  | (other, count) :: rest =>
    if key = other then (other, count + 1) :: rest else (other, count) :: countIn key rest

def recordReport (metrics : Metrics) (report : Report) : Metrics :=
  { metrics with reports := countIn (report.object.kind, report.isAccepted) metrics.reports }

def recordReports (metrics : Metrics) (reports : List Report) : Metrics :=
  reports.foldl recordReport metrics

def line (name : String) (labels : List (String × String)) (value : Nat) : String :=
  let written := labels.map fun (label, text) => label ++ "=\"" ++ text ++ "\""
  let suffix := if labels.isEmpty then "" else "\x7b" ++ ",".intercalate written ++ "\x7d"
  "schemagate_" ++ name ++ suffix ++ " " ++ toString value

def lines (metrics : Metrics) : List String :=
  let passes := metrics.acceptedPasses + metrics.failedPasses
  let passLine (outcome : String) (count : Nat) : List String :=
    if count = 0 then [] else [line "passes_total" [("outcome", outcome)] count]
  let all :=
    (metrics.endpoints.map (line "endpoints" [])).toList ++
    (if passes = 0 then [] else [line "pass_duration_seconds_count" [] passes]) ++
    passLine "ok" metrics.acceptedPasses ++
    passLine "error" metrics.failedPasses ++
    metrics.reports.map fun ((kind, accepted), count) =>
      let state := if accepted then State.accepted else .rejected
      line "reports_total" [("kind", kind.word), ("state", state.word)] count
  all.mergeSort fun left right => left ≤ right

end Metrics

end GatewayControl
