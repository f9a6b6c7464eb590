import Tollgate.Breaker.Registry
import Tollgate.Breaker.Run
import Tollgate.PrefixTable
import Tollgate.Spend.Ledger
import Tollgate.Telemetry.Record

/-!
The gate as a whole: clock, ledger, breakers, the tables for models, the admin
settings in force, and the record of everything told.
-/

namespace Tollgate

structure Gate where
  now : Nat := 0
  ledger : Ledger
  registry : Registry
  providers : ProviderTable
  prices : PriceTable
  admin : AdminSettings
  telemetry : Telemetry := {}

structure Hold where
  tenant : String
  cost : Float
  period : Nat

namespace Gate

def ofSettings (s : Settings) : Gate where
  ledger := { budget := s.budget }
  registry := .ofSettings s.breaker
  providers := s.routing.table
  prices := s.pricing.table
  admin := s.admin

def tell (g : Gate) (signals : List Signal) : Gate :=
  { g with telemetry := g.telemetry.add signals }

def advance (g : Gate) (duration : Nat) : Gate :=
  { g with now := g.now + duration }

/-! Ledger -/

def reserve (g : Gate) (tenant : String) (cost : Float) :
    Except LedgerError Reservation × Gate :=
  let (answer, signals, ledger) := g.ledger.reserve g.now tenant cost
  (answer, { g with ledger }.tell signals)

def release (g : Gate) (tenant : String) (cost : Float) (period : Option Nat) :
    Except LedgerError Int × Gate :=
  let (answer, ledger) := g.ledger.release g.now tenant cost period
  (answer, { g with ledger })

def budgetStatus (g : Gate) (tenant : String) : BudgetStatus × Gate :=
  let (answer, signals, ledger) := g.ledger.status g.now tenant
  (answer, { g with ledger }.tell signals)

def spendSnapshot (g : Gate) (tenant : String) :
    Except StoreError SpendSnapshot × Gate :=
  let (answer, ledger) := g.ledger.snapshot g.now tenant
  (answer, { g with ledger })

def updateBudget (g : Gate) (budget : BudgetSettings) : Gate :=
  let (signals, ledger) := g.ledger.update budget
  { g with ledger }.tell signals

/-- Takes a charge back, if its period is still the current one, and counts
the refunds that the store answered. -/
def refund (g : Gate) (hold : Hold) (reason : String) : Gate :=
  match g.release hold.tenant hold.cost (some hold.period) with
  | (.ok _, g) => g.tell [.count (.rollbacks reason)]
  | (.error (.store error), g) =>
      g.tell [.log (.refundFailed hold.tenant hold.cost reason error)]
  | (.error _, g) => g

/-! Breakers -/

def breaker (g : Gate) (dependency : String) : Breaker × Gate :=
  let (b, signals, registry) := g.registry.getOrCreate dependency
  (b, { g with registry }.tell signals)

def putBreaker (g : Gate) (dependency : String) (step : BreakerStep) : Gate :=
  { g with registry := g.registry.put dependency step.breaker }.tell step.signals

def changeBreaker (g : Gate) (dependency : String)
    (change : Breaker → BreakerStep) : Gate :=
  let (b, g) := g.breaker dependency
  g.putBreaker dependency (change b)

def askBreaker (g : Gate) (dependency : String) (op : BreakerOp) :
    BreakerReply × Gate :=
  let (b, g) := g.breaker dependency
  let (reply, step) := b.perform g.now op
  (reply, g.putBreaker dependency step)

def acquire (g : Gate) (dependency : String) : Option CircuitOpen × Gate :=
  let (b, g) := g.breaker dependency
  let (refused, step) := b.acquire g.now
  (refused, g.putBreaker dependency step)

def recordSuccess (g : Gate) (dependency : String) : Gate :=
  g.changeBreaker dependency (·.recordSuccess)

def recordFailure (g : Gate) (dependency : String) : Gate :=
  g.changeBreaker dependency (·.recordFailure g.now)

def forceOpen (g : Gate) (dependency : String) : Gate :=
  g.changeBreaker dependency (·.forceOpen g.now)

def breakerSnapshot (g : Gate) (dependency : String) : BreakerSnapshot × Gate :=
  let (b, g) := g.breaker dependency
  let (answer, b) := b.snapshot g.now
  (answer, g.putBreaker dependency { breaker := b })

def breakerSnapshots (g : Gate) : List BreakerSnapshot × Gate :=
  let (answer, registry) := g.registry.snapshots g.now
  (answer, { g with registry })

def resetBreaker (g : Gate) (dependency : String) : Bool × Gate :=
  let (answer, signals, registry) := g.registry.reset dependency
  (answer, { g with registry }.tell signals)

def resetBreakers (g : Gate) : Gate :=
  let (signals, registry) := g.registry.resetAll
  { g with registry }.tell signals

/-! Models -/

def providerFor (g : Gate) (model : String) : String :=
  g.providers.lookup model

def estimate (g : Gate) (model : String) (inputTokens maxOutputTokens : Nat) :
    Float :=
  g.prices.estimate model inputTokens maxOutputTokens

/-! Settings -/

/-- Puts the parts of new settings in force that may change in operation: the
budget and the admin section. -/
def reload (g : Gate) (s : Settings) : Gate :=
  { g.updateBudget s.budget with admin := s.admin }

end Gate

end Tollgate
