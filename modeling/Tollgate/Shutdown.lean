import Tollgate.Assoc
import Tollgate.Telemetry.Event

/-!
Shutdown: one signal, sent once, to everyone who is listening when it is sent.
-/

namespace Tollgate

structure Shutdown where
  triggered : Bool := false
  /-- The receivers by name; whether the signal waits for each. -/
  receivers : Assoc Bool := .empty

inductive ShutdownOp where
  | subscribe (id : String)
  | unsubscribe (id : String)
  | trigger
  | tryReceive (id : String)
deriving DecidableEq

namespace Shutdown

def subscribe (s : Shutdown) (id : String) : Shutdown :=
  { s with receivers := s.receivers.insert id false }

def unsubscribe (s : Shutdown) (id : String) : Shutdown :=
  { s with receivers := s.receivers.erase id }

def trigger (s : Shutdown) : List LogEvent × Shutdown :=
  if s.triggered then ([], s)
  else ([.shutdownTriggered s.receivers.size],
    { triggered := true, receivers := s.receivers.map fun _ => true })

def tryReceive (s : Shutdown) (id : String) : Bool × Shutdown :=
  if s.receivers.get? id = some true then
    (true, { s with receivers := s.receivers.insert id false })
  else (false, s)

def perform (s : Shutdown) : ShutdownOp → Bool × Shutdown
  | .subscribe id => (false, s.subscribe id)
  | .unsubscribe id => (false, s.unsubscribe id)
  | .trigger => (false, s.trigger.2)
  | .tryReceive id => s.tryReceive id

def run (s : Shutdown) : List ShutdownOp → List Bool × Shutdown
  | [] => ([], s)
  | op :: rest =>
      let (answer, s) := s.perform op
      let (answers, s) := s.run rest
      (answer :: answers, s)

end Shutdown

end Tollgate
