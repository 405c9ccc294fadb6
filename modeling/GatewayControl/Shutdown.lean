/-!
The signal to shut down. Every subscriber sees the signals that are given after it subscribed. Only
the newest signal is kept, so a subscriber that missed others is told first how many.
-/

namespace GatewayControl

structure Shutdown where
  given : Nat := 0
  /-- The subscribers, with how many signals each has behind it. -/
  subscribers : List (String × Nat) := []
deriving DecidableEq, Repr

inductive Reception
  | signal
  | nothing
  /-- That many signals were missed. -/
  | lagged (count : Nat)
  | closed
deriving DecidableEq, Repr

namespace Shutdown

def trigger (shutdown : Shutdown) : Shutdown := { shutdown with given := shutdown.given + 1 }

def drop (shutdown : Shutdown) (name : String) : Shutdown :=
  { shutdown with subscribers := shutdown.subscribers.filter fun other => other.1 ≠ name }

def subscribe (shutdown : Shutdown) (name : String) : Shutdown :=
  { shutdown with subscribers := (shutdown.drop name).subscribers ++ [(name, shutdown.given)] }

def receiverCount (shutdown : Shutdown) : Nat := shutdown.subscribers.length

/-- What a subscriber with `seen` signals behind it receives, and how many it has behind it then. -/
def reception (given seen : Nat) : Reception × Nat :=
  if seen + 1 < given then (.lagged (given - 1 - seen), given - 1)
  else if seen < given then (.signal, given)
  else (.nothing, seen)

def receive (shutdown : Shutdown) (name : String) : Reception × Shutdown :=
  match shutdown.subscribers.lookup name with
  | none => (.closed, shutdown)
  | some seen =>
    let (received, seen) := reception shutdown.given seen
    (received, { shutdown with
      subscribers := shutdown.subscribers.map fun other =>
        if other.1 = name then (name, seen) else other })

end Shutdown

end GatewayControl
