import GatewayControl.Reconcile.Pass

/-!
Supervised stores and operators. Every call is written into a journal before it is made, and a call
can be planned to fail: then the planned fault is the reply, and the call has no effect.
-/

namespace GatewayControl

structure Supervised (σ : Type) where
  world : σ
  journal : List String := []
  /-- Faults still to come, each for the next call of its name. -/
  planned : List (String × StorageFault) := []
  /-- The fault of every registration of a map, if registrations are to fail. -/
  registerFault : Option (ResolverMap → OperatorFault) := none
  reconfigureFault : Option OperatorFault := none

namespace Supervised

variable {σ : Type}

def update (change : σ → σ) (supervised : Supervised σ) : Supervised σ :=
  { supervised with world := change supervised.world }

def note (entry : String) (supervised : Supervised σ) : Supervised σ :=
  { supervised with journal := supervised.journal ++ [entry] }

def clearJournal (supervised : Supervised σ) : Supervised σ := { supervised with journal := [] }

def plan (word : String) (fault : StorageFault) (supervised : Supervised σ) : Supervised σ :=
  { supervised with planned := supervised.planned ++ [(word, fault)] }

/-- The first fault planned for a call, and the faults planned besides it. -/
def takePlanned (word : String) :
    List (String × StorageFault) → Option (StorageFault × List (String × StorageFault))
  | [] => none
  | (other, fault) :: rest =>
    if word = other then some (fault, rest)
    else (takePlanned word rest).map fun (found, rest) => (found, (other, fault) :: rest)

def entry (word object : String) : String := if object = "" then word else word ++ " " ++ object

def superviseStore (handle : StoreHandler σ) : StoreHandler (Supervised σ) :=
  fun call supervised =>
    let supervised := supervised.note (entry call.word call.object)
    match takePlanned call.word supervised.planned with
    | some (fault, planned) => (.error fault, { supervised with planned })
    | none =>
      let (reply, world) := handle call supervised.world
      (reply, { supervised with world })

def operatorEntry : OperatorCall → String
  | .register map => entry "register" map.name
  | .reconfigure => "reconfigure"

def operatorFault (supervised : Supervised σ) : OperatorCall → Option OperatorFault
  | .register map => supervised.registerFault.map fun fault => fault map
  | .reconfigure => supervised.reconfigureFault

def superviseOperator (handle : OperatorHandler σ) : OperatorHandler (Supervised σ) :=
  fun call supervised =>
    let supervised := supervised.note (operatorEntry call)
    match supervised.operatorFault call with
    | some fault => (.error fault, supervised)
    | none =>
      let (reply, world) := handle call supervised.world
      (reply, { supervised with world })

def supervisePass (store : StoreHandler σ) (operator : OperatorHandler σ)
    (serve : List Endpoint → σ → σ) (noted : List Report → σ → σ) :
    Handler PassCall.Reply (Supervised σ) :=
  passHandler (superviseStore store) (superviseOperator operator)
    (fun endpoints => update (serve endpoints))
    (fun reports supervised =>
      (supervised.note ("write_reports " ++ toString reports.length)).update (noted reports))

end Supervised

end GatewayControl
