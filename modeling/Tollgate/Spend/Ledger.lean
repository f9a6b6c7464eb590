import Tollgate.Config.Settings
import Tollgate.Config.Violation
import Tollgate.Spend.Store
import Tollgate.Telemetry.Event

/-!
The budget ledger: charges, refunds and views of the tenants' spend, over a
spend store that may be out of reach.
-/

namespace Tollgate

structure Ledger where
  budget : BudgetSettings
  store : SpendStore := {}
  /-- While set, the store answers nothing but this error. -/
  outage : Option StoreError := none

inductive Reservation where
  | charged (charge : Charge) (limit : Float)
  | unavailable (error : StoreError)

namespace Reservation

def isAllowed : Reservation → Bool
  | charged charge _ => charge.allowed
  | unavailable _ => false

def newTotal? : Reservation → Option Float
  | charged charge _ => some (Micros.toAmount charge.total)
  | unavailable _ => none

def period? : Reservation → Option Nat
  | charged charge _ => some charge.period
  | unavailable _ => none

end Reservation

inductive LedgerError where
  | invalidCost (cost : Float)
  | store (error : StoreError)
  | clockOverflow

def LedgerError.message : LedgerError → String
  | invalidCost cost =>
      "cost must be a finite, non-negative amount (got " ++
        FloatStyle.plain.render cost ++ ")"
  | store error => error.message
  | clockOverflow => "overflow when adding duration to instant"

inductive BudgetStatus where
  | ok
  | exhausted
deriving DecidableEq

def BudgetStatus.name : BudgetStatus → String
  | ok => "ok"
  | exhausted => "exhausted"

structure SpendSnapshot where
  tenant : String
  spend : Float
  limit : Float
  remaining : Float
  utilizationPct : Float
  status : BudgetStatus

namespace Ledger

def limitFor (l : Ledger) (tenant : String) : Float :=
  l.budget.limitFor tenant

def keyFor (l : Ledger) (tenant : String) : String :=
  l.budget.keyFor tenant

/-- Charges a tenant. A charge that lands on the limit fits; one beyond it is
recorded all the same. -/
def reserve (l : Ledger) (now : Nat) (tenant : String) (cost : Float) :
    Except LedgerError Reservation × List Signal × Ledger :=
  if !isAmount cost then (.error (.invalidCost cost), [], l)
  else match l.outage with
    | some error =>
        (.ok (.unavailable error), [.log (.reservationDenied tenant error)], l)
    | none =>
        let limit := l.limitFor tenant
        match l.store.reserve now (l.keyFor tenant) (Micros.ofAmount cost)
            (Micros.ofAmount limit) l.budget.period with
        | (none, store) => (.error .clockOverflow, [], { l with store })
        | (some charge, store) =>
            (.ok (.charged charge limit), [], { l with store })

/-- Takes a charge back: from the tenant's current period, or only while the
given period is the current one. Answers the tenant's total in micro-units. -/
def release (l : Ledger) (now : Nat) (tenant : String) (cost : Float)
    (period : Option Nat) : Except LedgerError Int × Ledger :=
  if !isAmount cost then (.error (.invalidCost cost), l)
  else match l.outage with
    | some error => (.error (.store error), l)
    | none =>
        let (total, store) :=
          l.store.release now (l.keyFor tenant) (Micros.ofAmount cost) period
        (.ok total, { l with store })

def current (l : Ledger) (now : Nat) (tenant : String) :
    Except StoreError Int × Ledger :=
  match l.outage with
  | some error => (.error error, l)
  | none =>
      let (total, store) := l.store.current now (l.keyFor tenant)
      (.ok total, { l with store })

def statusOf (total limit : Int) : BudgetStatus :=
  if limit ≤ total then .exhausted else .ok

/-- Whether the tenant is at its limit; not, if the store does not answer. -/
def status (l : Ledger) (now : Nat) (tenant : String) :
    BudgetStatus × List Signal × Ledger :=
  match l.current now tenant with
  | (.ok total, l) =>
      (statusOf total (Micros.ofAmount (l.limitFor tenant)), [], l)
  | (.error error, l) => (.ok, [.log (.statusUnavailable tenant error)], l)

def remaining (limit spend : Float) : Float :=
  let rest := limit - spend
  if 0 < rest then rest else 0

def snapshotOf (tenant : String) (total : Int) (limit : Float) :
    SpendSnapshot :=
  let spend := Micros.toAmount total
  { tenant, spend, limit
    remaining := remaining limit spend
    utilizationPct := if 0 < limit then spend / limit * 100 else 0
    status := statusOf total (Micros.ofAmount limit) }

def snapshot (l : Ledger) (now : Nat) (tenant : String) :
    Except StoreError SpendSnapshot × Ledger :=
  match l.current now tenant with
  | (.ok total, l) => (.ok (snapshotOf tenant total (l.limitFor tenant)), l)
  | (.error error, l) => (.error error, l)

def update (l : Ledger) (budget : BudgetSettings) : List Signal × Ledger :=
  ([.log (.limitsUpdated budget.defaultLimit budget.tenantLimits.size)],
    { l with budget })

def health (l : Ledger) : Except StoreError Unit :=
  match l.outage with
  | some error => .error error
  | none => .ok ()

end Ledger

end Tollgate
