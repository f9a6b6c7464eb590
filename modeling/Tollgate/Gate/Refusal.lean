import Tollgate.Admin.Response
import Tollgate.Breaker.Basic
import Tollgate.Number.Layout

/-!
Why an admission gave no result.
-/

namespace Tollgate

inductive Refusal where
  /-- The request makes no sense; nothing was charged. -/
  | invalidRequest (message : String)
  /-- The charge went past the tenant's limit; the operation did not run. -/
  | budgetExceeded (tenant : String) (spend limit : Float)
  /-- The spend store did not answer; the operation did not run. -/
  | ledgerUnavailable (reason : String)
  /-- The dependency's breaker is open; the charge was taken back. -/
  | breakerOpen (circuit : CircuitOpen)
  /-- The operation ran and failed; the charge was taken back. -/
  | operationFailed (error : String)

namespace Refusal

def outcome : Refusal → AdmissionOutcome
  | invalidRequest _ => .invalidRequest
  | budgetExceeded .. => .budgetExceeded
  | ledgerUnavailable _ => .ledgerUnavailable
  | breakerOpen _ => .breakerOpen
  | operationFailed _ => .operationFailed

def kind (r : Refusal) : String := r.outcome.name

def message : Refusal → String
  | invalidRequest message => "invalid request: " ++ message
  | budgetExceeded tenant spend limit =>
      s!"budget exceeded for tenant '{tenant}': " ++ renderFixed 4 spend ++
        " > " ++ renderFixed 4 limit
  | ledgerUnavailable reason => "budget ledger unavailable: " ++ reason
  | breakerOpen circuit => circuit.message
  | operationFailed error => "upstream operation failed: " ++ error

def status : Refusal → Nat
  | invalidRequest _ => 400
  | budgetExceeded .. => 402
  | ledgerUnavailable _ | breakerOpen _ => 503
  | operationFailed _ => 500

def operationError? : Refusal → Option String
  | operationFailed error => some error
  | _ => none

/-- A duration in whole seconds, rounded up from its nearest double. -/
def ceilSecs (duration : Nat) : Nat :=
  let inSecs := Float.ofNat (Clock.wholeSecs duration) +
    Float.ofNat (duration % Clock.secs 1) / 1000000000.0
  match Dyadic.ofFloat inSecs with
  | .finite false significand exponent =>
      let (num, den) := dyadicQuotient significand exponent
      min (divCeil num den) 18446744073709551615
  | _ => 0

def retryAfterSecs? : Refusal → Option Nat
  | breakerOpen circuit => some (ceilSecs circuit.retryAfter)
  | _ => none

def response (r : Refusal) : Response :=
  { Response.failure r.status r.kind r.message with
    retryAfter := r.retryAfterSecs? }

end Refusal

end Tollgate
