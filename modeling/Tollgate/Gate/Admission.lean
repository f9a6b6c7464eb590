import Tollgate.Gate.Basic
import Tollgate.Gate.Refusal

/-!
Admission of calls. The budget is charged first, so that a tenant without
budget never makes a trial call; then the breaker is asked; then the operation
runs, and its result decides whether the charge stays.
-/

namespace Tollgate

/-- A call whose operation has been started. -/
structure Call where
  hold : Hold
  dependency : String

inductive Charging where
  /-- A period would have to end later than the clock can tell. -/
  | clockOverflow
  | refused (refusal : Refusal)
  | denied (hold : Hold) (refusal : Refusal)
  | held (hold : Hold)

/-- What became of an admission up to the start of its operation. -/
inductive Entry where
  | running (call : Call)
  | refused (refusal : Refusal)
  | clockOverflow

namespace Gate

/-! The stages one by one -/

def charge (g : Gate) (tenant dependency : String) (cost : Float) :
    Charging × Gate :=
  match g.reserve tenant cost with
  | (.error .clockOverflow, g) => (.clockOverflow, g)
  | (.error (.invalidCost cost), g) =>
      (.refused (.invalidRequest
        ("estimated cost must be a finite, non-negative amount (got " ++
          FloatStyle.plain.render cost ++ ")")), g)
  | (.error (.store error), g) | (.ok (.unavailable error), g) =>
      (.refused (.ledgerUnavailable error.message),
        g.tell [.log (.ledgerUnavailable tenant dependency error.message)])
  | (.ok (.charged charge limit), g) =>
      let hold : Hold := ⟨tenant, cost, charge.period⟩
      if charge.allowed then (.held hold, g)
      else
        let spend := Micros.toAmount charge.total
        (.denied hold (.budgetExceeded tenant spend limit),
          g.tell [.log (.overBudget tenant dependency spend limit)])

def attempt (g : Gate) (call : Call) : Option Refusal × Gate :=
  match g.acquire call.dependency with
  | (none, g) => (none, g)
  | (some circuit, g) =>
      (some (.breakerOpen circuit),
        g.tell [.log (.circuitOpen call.hold.tenant call.dependency
          (Clock.wholeMillis circuit.retryAfter))])

def hear (g : Gate) (call : Call) (result : Except String String) :
    Except Refusal String × Gate :=
  match result with
  | .ok value => (.ok value, g.recordSuccess call.dependency)
  | .error error =>
      (.error (.operationFailed error),
        (g.recordFailure call.dependency).tell
          [.log (.callFailed call.hold.tenant call.dependency)])

def rollBack (g : Gate) (hold : Hold) (refusal : Refusal) : Gate :=
  g.refund hold refusal.outcome.name

def conclude (g : Gate) (outcome : AdmissionOutcome) : Gate :=
  g.tell [.count (.admissions outcome)]

/-! All together -/

def refuse (g : Gate) (refusal : Refusal) : Entry × Gate :=
  (.refused refusal, g.conclude refusal.outcome)

def enter (g : Gate) (call : Call) : Entry × Gate :=
  match g.attempt call with
  | (none, g) => (.running call, g)
  | (some refusal, g) => (g.rollBack call.hold refusal).refuse refusal

def start (g : Gate) (tenant dependency : String) (cost : Float) :
    Entry × Gate :=
  match g.charge tenant dependency cost with
  | (.clockOverflow, g) => (.clockOverflow, g)
  | (.refused refusal, g) => g.refuse refusal
  | (.denied hold refusal, g) =>
      if g.ledger.budget.refundDenied then
        (g.rollBack hold refusal).refuse refusal
      else g.refuse refusal
  | (.held hold, g) => g.enter ⟨hold, dependency⟩

def finish (g : Gate) (call : Call) (result : Except String String) :
    Except Refusal String × Gate :=
  match g.hear call result with
  | (.ok value, g) => (.ok value, g.conclude .admitted)
  | (.error refusal, g) =>
      (.error refusal,
        (g.rollBack call.hold refusal).conclude refusal.outcome)

/-- The caller gives up while the operation runs. The breaker hears nothing. -/
def cancel (g : Gate) (call : Call) : Gate :=
  g.refund call.hold "cancelled"

end Gate

structure Admitted where
  result : Except Refusal String
  invoked : Bool

namespace Gate

/-- A whole admission. The operation gets the gate as it stands when it starts,
and gives it back as it stands when it returns. Nothing is answered when the
clock overflows. -/
def admissionWith [Monad m] (g : Gate) (tenant dependency : String)
    (cost : Float) (operation : Gate → m (Except String String × Gate)) :
    m (Option Admitted × Gate) :=
  match g.start tenant dependency cost with
  | (.clockOverflow, g) => pure (none, g)
  | (.refused refusal, g) => pure (some ⟨.error refusal, false⟩, g)
  | (.running call, g) => do
      let (result, g) ← operation g
      let (answer, g) := g.finish call result
      pure (some ⟨answer, true⟩, g)

/-- An admission whose operation gives `result`, while nothing else happens. -/
def admission (g : Gate) (tenant dependency : String) (cost : Float)
    (result : Except String String) : Option Admitted × Gate :=
  Id.run (g.admissionWith tenant dependency cost fun g => pure (result, g))

end Gate

end Tollgate
