import Tollgate.Session.Step

/-!
Sessions: a gate with the charges, permits and calls that the embedding program
keeps under names of its own.
-/

namespace Tollgate

structure Session where
  gate : Gate
  /-- The budget settings that the gate was made with. -/
  firstBudget : BudgetSettings
  holds : Assoc Hold := .empty
  /-- The dependencies whose breakers gave the permits. -/
  permits : Assoc String := .empty
  calls : Assoc Call := .empty

namespace Session

def ofSettings (s : Settings) : Session where
  gate := .ofSettings s
  firstBudget := s.budget

def answer (s : Session) (answer : Answer) (gate : Gate) : Answer × Session :=
  (answer, { s with gate })

def look (s : Session) (answer : Answer) : Answer × Session :=
  (answer, s)

/-! Store -/

def askStore (s : Session) (op : SpendOp) : Answer × Session :=
  match s.gate.ledger.outage with
  | some error => s.look (.ledgerError (.store error))
  | none =>
      let (reply, store) := s.gate.ledger.store.perform s.gate.now op
      s.answer (.store reply store.size)
        { s.gate with ledger := { s.gate.ledger with store } }

/-! Ledger -/

def reserve (s : Session) (tenant : String) (cost : Float) : Answer × Session :=
  match s.gate.reserve tenant cost with
  | (.ok reservation, gate) => s.answer (.reservation reservation) gate
  | (.error error, gate) => s.answer (.ledgerError error) gate

def release (s : Session) (tenant : String) (cost : Float)
    (period : Option Nat) : Answer × Session :=
  match s.gate.release tenant cost period with
  | (.ok total, gate) => s.answer (.newTotal total) gate
  | (.error error, gate) => s.answer (.ledgerError error) gate

def spendSnapshot (s : Session) (tenant : String) : Answer × Session :=
  match s.gate.spendSnapshot tenant with
  | (.ok snapshot, gate) => s.answer (.spendSnapshot snapshot) gate
  | (.error error, gate) => s.answer (.ledgerError (.store error)) gate

def health (s : Session) : Answer × Session :=
  match s.gate.ledger.health with
  | .ok () => s.look .done
  | .error error => s.look (.ledgerError (.store error))

def updateBudget (s : Session) (change : BudgetChange) : Answer × Session :=
  let budget := change.apply s.gate.ledger.budget
  s.answer (.budget budget) (s.gate.updateBudget budget)

/-! Holds -/

/-- The period of a charge that was recorded, whether it fits or not, is held.
A hold that was under the id before is dropped. -/
def hold (s : Session) (id tenant : String) (cost : Float) : Answer × Session :=
  match s.gate.reserve tenant cost with
  | (.error error, gate) => s.answer (.ledgerError error) gate
  | (.ok reservation, gate) =>
      match reservation.period? with
      | none => s.answer (.reservation reservation) gate
      | some period =>
          let gate := match s.holds.get? id with
            | none => gate
            | some former => gate.refund former "cancelled"
          (.reservation reservation,
            { s with gate, holds := s.holds.insert id ⟨tenant, cost, period⟩ })

def settle (s : Session) (id : String) (how : Gate → Hold → Gate) :
    Answer × Session :=
  match s.holds.get? id with
  | none => s.look .unknownId
  | some hold =>
      (.done, { s with gate := how s.gate hold, holds := s.holds.erase id })

/-! Breakers -/

def usePermit (s : Session) (id : String) (how : Gate → String → Gate) :
    BreakerAnswer × Session :=
  match s.permits.get? id with
  | none => (.reply .done, s)
  | some owner =>
      (.reply .done,
        { s with gate := how s.gate owner, permits := s.permits.erase id })

/-- A call through the breaker alone, its operation giving `result`. -/
def callThrough (gate : Gate) (dependency : String)
    (result : Except String String) : BreakerAnswer × Gate :=
  match gate.acquire dependency with
  | (some circuit, gate) => (.reply (.refused circuit), gate)
  | (none, gate) =>
      match result with
      | .ok value => (.returned value, gate.recordSuccess dependency)
      | .error error => (.failed error, gate.recordFailure dependency)

def act (s : Session) (dependency : String) : BreakerAction →
    BreakerAnswer × Session
  | .acquire id =>
      match s.gate.acquire dependency with
      | (some circuit, gate) => (.reply (.refused circuit), { s with gate })
      | (none, gate) =>
          (.reply .granted,
            { s with gate, permits := s.permits.insert id dependency })
  | .permitSuccess id => s.usePermit id (·.recordSuccess)
  | .permitFailure id => s.usePermit id (·.recordFailure)
  | .permitDrop id => s.usePermit id fun gate _ => gate
  | .call result =>
      let (answer, gate) := callThrough s.gate dependency result
      (answer, { s with gate })
  | .failures times =>
      let gate := times.repeat (·.recordFailure dependency) s.gate
      (.reply .done, { s with gate })
  | .ask op =>
      let (reply, gate) := s.gate.askBreaker dependency op
      (.reply reply, { s with gate })
  | .config =>
      let (b, gate) := s.gate.breaker dependency
      (.config b.dependency b.config, { s with gate })

def breaker (s : Session) (dependency : String) (action : BreakerAction) :
    Answer × Session :=
  let (_, gate) := s.gate.breaker dependency
  let (answer, s) := { s with gate }.act dependency action
  let (b, gate) := s.gate.breaker dependency
  (.breaker answer b.state, { s with gate })

/-! Admissions -/

def price (s : Session) : CallTarget → String × Float
  | .dependency name cost => (name, cost)
  | .model name inputTokens maxOutputTokens =>
      (s.gate.providerFor name,
        s.gate.estimate name inputTokens maxOutputTokens)

def admission (s : Session) (tenant : String) (target : CallTarget)
    (result : Except String String) : Answer × Session :=
  let (dependency, cost) := s.price target
  match s.gate.admission tenant dependency cost result with
  | (some admitted, gate) => s.answer (.admitted admitted) gate
  | (none, gate) => s.answer (.ledgerError .clockOverflow) gate

def start (s : Session) (id tenant : String) (target : CallTarget) :
    Answer × Session :=
  let (dependency, cost) := s.price target
  match s.gate.start tenant dependency cost with
  | (.running call, gate) =>
      (.pending, { s with gate, calls := s.calls.insert id call })
  | (.refused refusal, gate) => s.answer (.refusedAtStart refusal) gate
  | (.clockOverflow, gate) => s.answer (.ledgerError .clockOverflow) gate

def finish (s : Session) (id : String) (result : Except String String) :
    Answer × Session :=
  match s.calls.get? id with
  | none => s.look .unknownId
  | some call =>
      let (result, gate) := s.gate.finish call result
      (.admitted ⟨result, true⟩, { s with gate, calls := s.calls.erase id })

def cancel (s : Session) (id : String) : Answer × Session :=
  match s.calls.get? id with
  | none => s.look .unknownId
  | some call =>
      (.cancelled,
        { s with gate := s.gate.cancel call, calls := s.calls.erase id })

/-! Steps -/

def reload (s : Session) (toml : String) : Answer × Session :=
  match Settings.ofToml toml with
  | .ok settings => s.answer .reloaded (s.gate.reload settings)
  | .error error => s.look (.configError error)

def step (s : Session) : Step → Answer × Session
  | .advance duration => s.answer .done (s.gate.advance duration)
  | .readLog =>
      let (events, telemetry) := s.gate.telemetry.readLog
      s.answer (.log events) { s.gate with telemetry }
  | .readMetrics =>
      s.look (.metrics s.gate.telemetry.counters s.gate.telemetry.gauges)
  | .reload toml => s.reload toml
  | .request request =>
      let (response, gate) := s.gate.serve request
      s.answer (.response response) gate
  | .setOutage outage =>
      s.answer .done
        { s.gate with ledger := { s.gate.ledger with outage } }
  | .store op => s.askStore op
  | .storeSize => s.look (.size s.gate.ledger.store.size)
  | .reserve tenant cost => s.reserve tenant cost
  | .rollback tenant cost => s.release tenant cost none
  | .refund tenant cost period => s.release tenant cost (some period)
  | .budgetStatus tenant =>
      let (status, gate) := s.gate.budgetStatus tenant
      s.answer (.budgetStatus status) gate
  | .spendSnapshot tenant => s.spendSnapshot tenant
  | .limitFor tenant => s.look (.amount (s.gate.ledger.limitFor tenant))
  | .keyFor tenant => s.look (.text (s.gate.ledger.keyFor tenant))
  | .health => s.health
  | .updateBudget change => s.updateBudget change
  | .hold id tenant cost => s.hold id tenant cost
  | .commitHold id => s.settle id fun gate _ => gate
  | .rollbackHold id reason => s.settle id fun gate hold =>
      gate.refund hold reason
  | .dropHold id => s.settle id fun gate hold => gate.refund hold "cancelled"
  | .forgetHold id => s.settle id fun gate hold =>
      gate.tell [.log (.refundImpossible hold.tenant hold.cost)]
  | .breaker dependency action => s.breaker dependency action
  | .breakerSnapshots =>
      let (snapshots, gate) := s.gate.breakerSnapshots
      s.answer (.breakerSnapshots snapshots) gate
  | .breakerState dependency =>
      s.look (.breakerState ((s.gate.registry.get? dependency).map (·.state)))
  | .sameBreaker one other =>
      let (_, gate) := s.gate.breaker one
      let (_, gate) := gate.breaker other
      s.answer (.flag (one == other)) gate
  | .resetBreaker dependency =>
      let (found, gate) := s.gate.resetBreaker dependency
      s.answer (.flag found) gate
  | .resetBreakers => s.answer .done s.gate.resetBreakers
  | .breakerCount => s.look (.size s.gate.registry.breakers.size)
  | .breakerConfig dependency =>
      s.look (.breakerConfig (s.gate.registry.configFor dependency))
  | .admission tenant target result => s.admission tenant target result
  | .start id tenant target => s.start id tenant target
  | .finish id result => s.finish id result
  | .cancel id => s.cancel id
  | .providerFor model => s.look (.text (s.gate.providerFor model))
  | .estimate model inputTokens maxOutputTokens =>
      s.look (.amount (s.gate.estimate model inputTokens maxOutputTokens))
  | .firstLimitFor tenant => s.look (.amount (s.firstBudget.limitFor tenant))

def run (s : Session) : List Step → List Answer × Session
  | [] => ([], s)
  | step :: rest =>
      let (answer, s) := s.step step
      let (answers, s) := s.run rest
      (answer :: answers, s)

end Session

end Tollgate
