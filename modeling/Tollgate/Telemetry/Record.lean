import Tollgate.Sorting
import Tollgate.Telemetry.Event

/-!
The record of all signals, and the views of it: the log since it was last read,
and the counters and gauges as they stand.
-/

namespace Tollgate

structure Telemetry where
  signals : List Signal := []
  read : Nat := 0

structure Sample (α : Type) where
  name : String
  labels : List (String × String)
  value : α

def Sample.key (s : Sample α) : List String :=
  s.name :: s.labels.flatMap fun (label, value) => [label, value]

namespace Telemetry

def add (t : Telemetry) (signals : List Signal) : Telemetry :=
  { t with signals := t.signals ++ signals }

def events (signals : List Signal) : List LogEvent :=
  signals.filterMap fun
    | .log event => some event
    | _ => none

/-- The log events since the last reading, which is now; debug events apart. -/
def readLog (t : Telemetry) : List LogEvent × Telemetry :=
  ((events (t.signals.drop t.read)).filter (·.level.rank ≤ LogLevel.info.rank),
    { t with read := t.signals.length })

def counts (t : Telemetry) : List Counter :=
  t.signals.filterMap fun
    | .count counter => some counter
    | _ => none

def countOf (t : Telemetry) (counter : Counter) : Nat :=
  t.counts.count counter

def gaugings (t : Telemetry) : List (String × CircuitState) :=
  t.signals.filterMap fun
    | .gauge dependency state => some (dependency, state)
    | _ => none

def gaugeOf (t : Telemetry) (dependency : String) : Option CircuitState :=
  (t.gaugings.reverse.find? (·.1 == dependency)).map (·.2)

def placeLE : List String → List String → Bool
  | [], _ => true
  | _ :: _, [] => false
  | a :: as, b :: bs => a < b || (a == b && placeLE as bs)

def sortSamples (samples : List (Sample α)) : List (Sample α) :=
  sortBy (fun a b => placeLE a.key b.key) samples

def counters (t : Telemetry) : List (Sample Nat) :=
  sortSamples (t.counts.eraseDups.map fun c => ⟨c.name, c.labels, t.countOf c⟩)

def gauges (t : Telemetry) : List (Sample CircuitState) :=
  let named := t.gaugings.map (·.1)
  sortSamples (named.eraseDups.filterMap fun dependency =>
    (t.gaugeOf dependency).map fun state =>
      ⟨"breaker_state", [("dependency", dependency)], state⟩)

end Telemetry

end Tollgate
