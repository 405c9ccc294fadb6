import GatewayControl.Toml.Record

/-!
The status of a stored object: the outcome of the last pass that looked at it.
-/

namespace GatewayControl

inductive State
  | pending
  | accepted
  | rejected
deriving DecidableEq, Repr

def State.word : State → String
  | pending => "pending"
  | accepted => "accepted"
  | rejected => "rejected"

def State.ofWord? (word : String) : Option State :=
  [State.pending, .accepted, .rejected].find? fun state => state.word = word

structure Status where
  state : State := .pending
  reason : Option String := none
deriving DecidableEq, Repr

namespace Status

def accepted : Status := { state := .accepted }

def rejected (reason : String) : Status := { state := .rejected, reason := some reason }

def toToml (status : Status) : Toml.Table :=
  ("state", .text status.state.word) ::
    (status.reason.map fun reason => ("reason", Toml.Value.text reason)).toList

def stateOfToml? (value : Toml.Value) : Option State := do
  State.ofWord? (← value.case?)

def ofToml? (record : Toml.Value) : Option Status := do
  let state ← record.memberOr .pending 0 "state" stateOfToml?
  let reason ← record.member? 1 "reason" Toml.Value.text?
  return { state, reason }

end Status

end GatewayControl
