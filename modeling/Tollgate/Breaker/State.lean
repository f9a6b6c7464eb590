/-!
The states of a circuit breaker.
-/

namespace Tollgate

inductive CircuitState where
  | closed
  | opened
  | halfOpen
deriving DecidableEq

namespace CircuitState

def name : CircuitState → String
  | closed => "closed"
  | opened => "open"
  | halfOpen => "half-open"

def gauge : CircuitState → Nat
  | closed => 0
  | halfOpen => 1
  | opened => 2

end CircuitState

end Tollgate
