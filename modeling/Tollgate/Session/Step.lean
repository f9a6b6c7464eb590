import Tollgate.Admin.Handler
import Tollgate.Config.Load
import Tollgate.Gate.Admission
import Tollgate.Spend.Run

/-!
What a program that embeds a gate can ask of it, one step at a time, and the
answers.
-/

namespace Tollgate

structure BudgetChange where
  defaultLimit : Option Float := none
  periodSecs : Option Nat := none
  keyPrefix : Option String := none
  tenantLimits : Option (Assoc Float) := none
  refundDenied : Option Bool := none

def BudgetChange.apply (c : BudgetChange) (b : BudgetSettings) :
    BudgetSettings where
  defaultLimit := c.defaultLimit.getD b.defaultLimit
  periodSecs := c.periodSecs.getD b.periodSecs
  keyPrefix := c.keyPrefix.getD b.keyPrefix
  tenantLimits := c.tenantLimits.getD b.tenantLimits
  refundDenied := c.refundDenied.getD b.refundDenied

inductive CallTarget where
  | dependency (name : String) (cost : Float)
  | model (name : String) (inputTokens maxOutputTokens : Nat)

inductive BreakerAction where
  | acquire (id : String)
  | permitSuccess (id : String)
  | permitFailure (id : String)
  | permitDrop (id : String)
  | call (result : Except String String)
  | failures (times : Nat)
  | ask (op : BreakerOp)
  | config

inductive Step where
  | advance (duration : Nat)
  | readLog
  | readMetrics
  | reload (toml : String)
  | request (request : Request)
  | setOutage (error : Option StoreError)
  /-- Asks the store itself, past the ledger. -/
  | store (op : SpendOp)
  | storeSize
  | reserve (tenant : String) (cost : Float)
  | rollback (tenant : String) (cost : Float)
  | refund (tenant : String) (cost : Float) (period : Nat)
  | budgetStatus (tenant : String)
  | spendSnapshot (tenant : String)
  | limitFor (tenant : String)
  | keyFor (tenant : String)
  | health
  | updateBudget (change : BudgetChange)
  /-- Charges and keeps the charge under an id until it is settled. -/
  | hold (id tenant : String) (cost : Float)
  | commitHold (id : String)
  | rollbackHold (id reason : String)
  /-- Drops the hold where a refund can still run. -/
  | dropHold (id : String)
  /-- Drops the hold where no refund can run any more. -/
  | forgetHold (id : String)
  | breaker (dependency : String) (action : BreakerAction)
  | breakerSnapshots
  | breakerState (dependency : String)
  | sameBreaker (one other : String)
  | resetBreaker (dependency : String)
  | resetBreakers
  | breakerCount
  | breakerConfig (dependency : String)
  | admission (tenant : String) (target : CallTarget)
      (result : Except String String)
  | start (id tenant : String) (target : CallTarget)
  | finish (id : String) (result : Except String String)
  | cancel (id : String)
  | providerFor (model : String)
  | estimate (model : String) (inputTokens maxOutputTokens : Nat)
  | firstLimitFor (tenant : String)

inductive BreakerAnswer where
  | reply (reply : BreakerReply)
  | returned (value : String)
  /-- The operation ran and failed. -/
  | failed (error : String)
  | config (dependency : String) (config : BreakerConfig)

inductive Answer where
  | done
  | ledgerError (error : LedgerError)
  | store (reply : SpendReply) (size : Nat)
  | size (n : Nat)
  | reservation (reservation : Reservation)
  | newTotal (total : Int)
  | budgetStatus (status : BudgetStatus)
  | spendSnapshot (snapshot : SpendSnapshot)
  | amount (x : Float)
  | text (s : String)
  | budget (b : BudgetSettings)
  | breaker (answer : BreakerAnswer) (state : CircuitState)
  | breakerSnapshots (snapshots : List BreakerSnapshot)
  | breakerState (state : Option CircuitState)
  | flag (b : Bool)
  | breakerConfig (config : BreakerConfig)
  | admitted (a : Admitted)
  | pending
  /-- The admission ended before its operation began. -/
  | refusedAtStart (refusal : Refusal)
  | cancelled
  | log (events : List LogEvent)
  | metrics (counters : List (Sample Nat)) (gauges : List (Sample CircuitState))
  | response (r : Response)
  | reloaded
  | configError (error : ConfigError)
  | unknownId

end Tollgate
