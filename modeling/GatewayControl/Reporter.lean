import GatewayControl.Report
import GatewayControl.Store.Item

/-!
Writing the outcome of a pass onto the stored objects. A status that is stored already is not
written again, so that what watches the store comes to rest; a failure for one object does not stop
the others.
-/

namespace GatewayControl

namespace Reporter

def context (action : String) (object : ObjectRef) : String :=
  action ++ " status of " ++ object.display

def failed (action : String) (object : ObjectRef) (fault : StorageFault) : Option Failure :=
  some (.storage (context action object) fault)

def writeReport (report : Report) : StoreProgram (Option Failure) :=
  .call (.get report.object) fun reply =>
    match StoreCall.got report.object reply with
    | .error fault => .done (failed "reading" report.object fault)
    | .ok item =>
      if item.status = report.status then .done none
      else
        .call (.update (item.withStatus report.status)) fun
          | .error fault => .done (failed "writing" report.object fault)
          | .ok _ => .done none

def writeAll (failures : Failures) : List Report → StoreProgram Failures
  | [] => .done failures
  | report :: reports =>
    (writeReport report).bind fun failure =>
      writeAll (failures.pushAll failure.toList) reports

def writeReports (reports : List Report) : StoreProgram (Except Failure Unit) :=
  (writeAll {} reports).bind fun failures => .done failures.toResult

end Reporter

end GatewayControl
