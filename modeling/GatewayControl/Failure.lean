import GatewayControl.Resolver

/-!
Why something failed, from the causes inside storage, watching and routing to the failures that a
pass reports. Failures of the same object are gathered into one; gathering keeps single causes
only, so that a gathered failure never holds another one.
-/

namespace GatewayControl

inductive StorageFault
  | notFound (kind : ObjectKind) (name : String)
  | alreadyExists (kind : ObjectKind) (name : String)
  | conflict (kind : ObjectKind) (name : String) (expected actual : Nat)
  | invalidName (kind : ObjectKind) (reason : String)
  | nameMismatch (path declared expected : String)
  | io (reason : String)
  | serialization (reason : String)
deriving DecidableEq, Repr

namespace StorageFault

def message : StorageFault → String
  | notFound kind name => kind.word ++ " " ++ name ++ " not found"
  | alreadyExists kind name => kind.word ++ " " ++ name ++ " already exists"
  | conflict kind name expected actual =>
    kind.word ++ " " ++ name ++ " was modified concurrently (expected version " ++
      toString expected ++ ", found " ++ toString actual ++ ")"
  | invalidName kind reason => "invalid " ++ kind.word ++ " name: " ++ reason
  | nameMismatch path declared expected =>
    path ++ ": document declares name " ++ declared ++ ", expected " ++ expected
  | io reason => "I/O error: " ++ reason
  | serialization reason => "serialization error: " ++ reason

def isNotFound : StorageFault → Bool
  | notFound _ _ => true
  | _ => false

/-- An update of an old version and a second creation are both conflicts. -/
def isConflict : StorageFault → Bool
  | conflict _ _ _ _ | alreadyExists _ _ => true
  | _ => false

end StorageFault

inductive WatchFault
  | notification (reason : String)
  | load (fault : StorageFault)
deriving DecidableEq, Repr

def WatchFault.message : WatchFault → String
  | notification reason => "watch error: " ++ reason
  | load fault => "failed to load configuration: " ++ fault.message

inductive OperatorFault
  | invalidRoute (map reason : String)
  | write (path reason : String)
  | serialize (reason : String)
deriving DecidableEq, Repr

def OperatorFault.message : OperatorFault → String
  | invalidRoute map reason => "cannot route resolver map " ++ map ++ ": " ++ reason
  | write path reason => "writing route table " ++ path ++ ": " ++ reason
  | serialize reason => "serializing route table: " ++ reason

inductive Failure
  | invalidName (reason : String)
  | schemaParse (reason : String)
  | mapNotFound (schema map : String)
  | build (fault : BuildFault)
  | storage (context : String) (fault : StorageFault)
  | watch (fault : WatchFault)
  | operator (fault : OperatorFault)
  | several (causes : List Failure)

def gatheredHeading (count : Nat) : String :=
  if count = 1 then "1 error occurred: " else toString count ++ " errors occurred: "

mutual

def Failure.message : Failure → String
  | .invalidName reason => "invalid name: " ++ reason
  | .schemaParse reason => "failed to parse schema: " ++ reason
  | .mapNotFound schema map => "resolver map " ++ map ++ " for schema " ++ schema ++ " not found"
  | .build fault => "failed to generate resolvers from map: " ++ fault.message
  | .storage context fault => context ++ ": " ++ fault.message
  | .watch fault => "config watcher error: " ++ fault.message
  | .operator fault => fault.message
  | .several causes => gatheredHeading causes.length ++ joinedMessages causes

def joinedMessages : List Failure → String
  | [] => ""
  | [cause] => cause.message
  | cause :: causes => cause.message ++ "; " ++ joinedMessages causes

end

def Failure.causes : Failure → List Failure
  | .several causes => causes
  | failure => [failure]

structure Failures where
  causes : List Failure := []

namespace Failures

/-- Adds a failure; of a gathered one, its causes. -/
def push (failures : Failures) (failure : Failure) : Failures :=
  ⟨failures.causes ++ failure.causes⟩

def pushAll (failures : Failures) (more : List Failure) : Failures := more.foldl push failures

def toFailure? (failures : Failures) : Option Failure :=
  match failures.causes with
  | [] => none
  | [cause] => some cause
  | causes => some (.several causes)

def toResult (failures : Failures) : Except Failure Unit :=
  match failures.toFailure? with
  | none => .ok ()
  | some failure => .error failure

def message (failures : Failures) : String :=
  gatheredHeading failures.causes.length ++ joinedMessages failures.causes

end Failures

end GatewayControl
