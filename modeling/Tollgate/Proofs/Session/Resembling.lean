import Tollgate.Proofs.Gate.Resembling
import Tollgate.Proofs.Session.InForce

/-!
Sessions that no answer tells apart, but for what is said of the log and of the
number of keys in the store. Each step is answered alike in two such sessions,
as long as periods have a length, and they go on to resemble each other.
-/

namespace Tollgate

namespace Step

/-- What an answer to the step says, but for the log and the number of keys in
the store. -/
def told : Step → Answer → Answer
  | .readLog, _ => .log []
  | .storeSize, _ => .size 0
  | .store _, .store reply _ => .store reply 0
  | _, answer => answer

/-- Every period that the step starts or provides for has a length. -/
def IsLasting : Step → Prop
  | .updateBudget change => change.periodSecs ≠ some 0
  | .store (.reserve _ _ _ period) => 0 < period
  | _ => True

end Step

theorem BudgetSettings.period_pos {b : BudgetSettings}
    (lasting : 0 < b.periodSecs) : 0 < b.period :=
  Nat.mul_pos lasting (by decide)

theorem Settings.periodSecs_pos_of_ofToml {toml : String} {settings : Settings}
    (valid : ofToml toml = .ok settings) : 0 < settings.budget.periodSecs := by
  have none : settings.violations = [] := by
    unfold ofToml at valid
    split at valid
    · cases valid
    · unfold check at valid
      split at valid
      · rename_i clean
        cases valid
        exact clean
      · cases valid
  simp only [violations, budgetViolations, List.append_eq_nil_iff] at none
  obtain ⟨⟨⟨⟨⟨⟨-, zero⟩, -⟩, -⟩, -⟩, -⟩, -⟩ := none
  by_contra ended
  rw [if_pos (Nat.eq_zero_of_not_pos ended)] at zero
  cases zero

namespace Session

/-- The program has kept the same in both sessions, and their gates resemble
each other. -/
structure Resembles (s t : Session) : Prop where
  gates : s.gate.Resembles t.gate
  firstBudget : s.firstBudget = t.firstBudget
  holds : s.holds = t.holds
  permits : s.permits = t.permits
  calls : s.calls = t.calls

variable {s t u : Session}

namespace Resembles

theorem refl (s : Session) : s.Resembles s := ⟨.refl _, rfl, rfl, rfl, rfl⟩

theorem trans (first : s.Resembles t) (second : t.Resembles u) :
    s.Resembles u where
  gates := first.gates.trans second.gates
  firstBudget := first.firstBudget.trans second.firstBudget
  holds := first.holds.trans second.holds
  permits := first.permits.trans second.permits
  calls := first.calls.trans second.calls

theorem withGate (same : s.Resembles t) {g h : Gate} (gates : g.Resembles h) :
    Resembles { s with gate := g } { t with gate := h } :=
  { same with gates }

theorem answer (same : s.Resembles t) {g h : Gate} (gates : g.Resembles h)
    (answer : Answer) :
    Agree Resembles (s.answer answer g) (t.answer answer h) :=
  .intro _ (same.withGate gates)

theorem look (same : s.Resembles t) {first second : Answer}
    (answers : first = second) :
    Agree Resembles (s.look first) (t.look second) :=
  .of answers same

/-! The ledger -/

theorem reserve (same : s.Resembles t)
    (lasting : 0 < s.gate.ledger.budget.period) (tenant : String)
    (cost : Float) :
    Agree Resembles (s.reserve tenant cost) (t.reserve tenant cost) := by
  have reserved := same.gates.reserve lasting tenant cost
  rw [reserve_eq, reserve_eq]
  exact .of (congrArg (answerOf .reservation id) reserved.answers)
    (same.withGate reserved.after)

theorem release (same : s.Resembles t) (tenant : String) (cost : Float)
    (period : Option Nat) :
    Agree Resembles (s.release tenant cost period)
      (t.release tenant cost period) := by
  have released := same.gates.release tenant cost period
  rw [release_eq, release_eq]
  exact .of (congrArg (answerOf .newTotal id) released.answers)
    (same.withGate released.after)

theorem spendSnapshot (same : s.Resembles t) (tenant : String) :
    Agree Resembles (s.spendSnapshot tenant) (t.spendSnapshot tenant) := by
  have read := same.gates.spendSnapshot tenant
  rw [spendSnapshot_eq, spendSnapshot_eq]
  exact .of (congrArg (answerOf .spendSnapshot .store) read.answers)
    (same.withGate read.after)

theorem updateBudget (same : s.Resembles t) (change : BudgetChange) :
    Agree Resembles (s.updateBudget change) (t.updateBudget change) := by
  unfold Session.updateBudget
  rw [same.gates.ledgers.budget]
  exact same.answer (same.gates.updateBudget _) _

theorem reload (same : s.Resembles t) (toml : String) :
    Agree Resembles (s.reload toml) (t.reload toml) := by
  unfold Session.reload
  split
  · exact same.answer (same.gates.reload _) _
  · exact same.look rfl

theorem setOutage (same : s.Resembles t) (outage : Option StoreError) :
    Agree Resembles (s.step (.setOutage outage))
      (t.step (.setOutage outage)) := by
  have gates : Gate.Resembles
      { s.gate with ledger := { s.gate.ledger with outage } }
      { t.gate with ledger := { t.gate.ledger with outage } } :=
    { same.gates with
      ledgers := { same.gates.ledgers with outage := rfl } }
  exact same.answer gates _

theorem askStore (same : s.Resembles t) {op : SpendOp}
    (lasting : (Step.store op).IsLasting) :
    Step.told (.store op) (s.askStore op).1 =
        Step.told (.store op) (t.askStore op).1 ∧
      (s.askStore op).2.Resembles (t.askStore op).2 := by
  have performed : (s.gate.ledger.store.perform s.gate.now op).1 =
        (t.gate.ledger.store.perform s.gate.now op).1 ∧
      (s.gate.ledger.store.perform s.gate.now op).2.Resembles s.gate.now
        (t.gate.ledger.store.perform s.gate.now op).2 := by
    cases op with
    | reserve key amount limit period =>
        obtain ⟨charge, after⟩ :=
          same.gates.ledgers.stores.reserve lasting key amount limit
        exact ⟨congrArg SpendReply.ofCharge charge, after⟩
    | release key amount period =>
        obtain ⟨total, after⟩ :=
          same.gates.ledgers.stores.release key amount period
        exact ⟨congrArg SpendReply.total total, after⟩
    | current key =>
        obtain ⟨total, after⟩ := same.gates.ledgers.stores.current key
        exact ⟨congrArg SpendReply.total total, after⟩
  obtain ⟨reply, after⟩ := performed
  unfold Session.askStore
  rw [same.gates.ledgers.outage, ← same.gates.now]
  cases t.gate.ledger.outage with
  | some error => exact ⟨rfl, same⟩
  | none =>
      refine ⟨congrArg (Answer.store · 0) reply, ?_⟩
      exact same.withGate { same.gates with
        ledgers := same.gates.ledgers.withStore after }

/-! Holds -/

theorem hold (same : s.Resembles t)
    (lasting : 0 < s.gate.ledger.budget.period) (id tenant : String)
    (cost : Float) :
    Agree Resembles (s.hold id tenant cost) (t.hold id tenant cost) := by
  have reserved := same.gates.reserve lasting tenant cost
  unfold Session.hold
  rw [same.holds]
  generalize s.gate.reserve tenant cost = x at reserved ⊢
  generalize t.gate.reserve tenant cost = y at reserved ⊢
  obtain ⟨answer, after⟩ := reserved
  cases answer with
  | error error => exact same.answer after _
  | ok reservation =>
      dsimp only
      split
      · exact same.answer after _
      · refine .intro _ ⟨?_, same.firstBudget, rfl, same.permits, same.calls⟩
        dsimp only
        split
        · exact after
        · exact after.refund _ _

theorem settle (same : s.Resembles t) (id : String)
    {how : Gate → Hold → Gate}
    (each : ∀ {g h}, Gate.Resembles g h →
      ∀ hold, (how g hold).Resembles (how h hold)) :
    Agree Resembles (s.settle id how) (t.settle id how) := by
  unfold Session.settle
  rw [same.holds]
  split
  · exact same.look rfl
  · exact .intro _ { same with gates := each same.gates _, holds := rfl }

/-! Breakers -/

theorem usePermit (same : s.Resembles t) (id : String)
    {how : Gate → String → Gate}
    (each : ∀ {g h}, Gate.Resembles g h →
      ∀ owner, (how g owner).Resembles (how h owner)) :
    Agree Resembles (s.usePermit id how) (t.usePermit id how) := by
  unfold Session.usePermit
  rw [same.permits]
  split
  · exact .intro _ same
  · exact .intro _ { same with gates := each same.gates _, permits := rfl }

theorem callThrough {g h : Gate} (gates : g.Resembles h) (dependency : String)
    (result : Except String String) :
    Agree Gate.Resembles (Session.callThrough g dependency result)
      (Session.callThrough h dependency result) := by
  have asked := gates.acquire dependency
  unfold Session.callThrough
  generalize g.acquire dependency = x at asked ⊢
  generalize h.acquire dependency = y at asked ⊢
  obtain ⟨answer, after⟩ := asked
  cases answer with
  | some circuit => exact .intro _ after
  | none =>
      cases result with
      | ok value => exact .intro _ (after.recordSuccess dependency)
      | error error => exact .intro _ (after.recordFailure dependency)

theorem repeated {g h : Gate} (gates : g.Resembles h) {change : Gate → Gate}
    (each : ∀ {g h}, Gate.Resembles g h → (change g).Resembles (change h))
    (times : Nat) :
    (times.repeat change g).Resembles (times.repeat change h) := by
  induction times with
  | zero => exact gates
  | succ times ih => exact each ih

theorem act (same : s.Resembles t) (dependency : String)
    (action : BreakerAction) :
    Agree Resembles (s.act dependency action) (t.act dependency action) := by
  cases action with
  | acquire id =>
      have asked := same.gates.acquire dependency
      simp only [Session.act]
      generalize s.gate.acquire dependency = x at asked ⊢
      generalize t.gate.acquire dependency = y at asked ⊢
      obtain ⟨answer, after⟩ := asked
      cases answer with
      | some circuit => exact .intro _ (same.withGate after)
      | none =>
          exact .intro _ { same with
            gates := after
            permits := congrArg (·.insert id dependency) same.permits }
  | permitSuccess id =>
      exact same.usePermit id fun gates => gates.recordSuccess
  | permitFailure id =>
      exact same.usePermit id fun gates => gates.recordFailure
  | permitDrop id => exact same.usePermit id fun gates _ => gates
  | call result =>
      have called := callThrough same.gates dependency result
      simp only [Session.act]
      generalize Session.callThrough s.gate dependency result = x at called ⊢
      generalize Session.callThrough t.gate dependency result = y at called ⊢
      obtain ⟨answer, after⟩ := called
      exact .intro _ (same.withGate after)
  | failures times =>
      exact .intro _ (same.withGate
        (repeated same.gates (fun gates => gates.recordFailure dependency)
          times))
  | ask op =>
      have asked := same.gates.askBreaker dependency op
      simp only [Session.act]
      generalize s.gate.askBreaker dependency op = x at asked ⊢
      generalize t.gate.askBreaker dependency op = y at asked ⊢
      obtain ⟨answer, after⟩ := asked
      exact .intro _ (same.withGate after)
  | config =>
      obtain ⟨found, after⟩ := same.gates.breaker dependency
      have name := congrArg Breaker.dependency found
      have config := congrArg Breaker.config found
      refine .of ?_ (same.withGate after)
      exact congrArg₂ BreakerAnswer.config name config

theorem breaker (same : s.Resembles t) (dependency : String)
    (action : BreakerAction) :
    Agree Resembles (s.breaker dependency action)
      (t.breaker dependency action) := by
  have made := same.withGate (same.gates.breaker dependency).2
  have acted := made.act dependency action
  unfold Session.breaker
  dsimp only at acted ⊢
  generalize Session.act _ dependency action = x at acted ⊢
  generalize Session.act _ dependency action = y at acted ⊢
  obtain ⟨answer, after⟩ := acted
  obtain ⟨found, gates⟩ := after.gates.breaker dependency
  have state := congrArg Breaker.state found
  refine .of ?_ (after.withGate gates)
  exact congrArg (Answer.breaker answer) state

/-! Admissions -/

theorem price (same : s.Resembles t) (target : CallTarget) :
    s.price target = t.price target := by
  cases target with
  | dependency name cost => rfl
  | model name inputTokens maxOutputTokens =>
      exact congrArg₂ Prod.mk (same.gates.providerFor name)
        (same.gates.estimate name inputTokens maxOutputTokens)

theorem admission (same : s.Resembles t)
    (lasting : 0 < s.gate.ledger.budget.period) (tenant : String)
    (target : CallTarget) (result : Except String String) :
    Agree Resembles (s.admission tenant target result)
      (t.admission tenant target result) := by
  have admitted := same.gates.admission lasting tenant (t.price target).1
    (t.price target).2 result
  unfold Session.admission
  rw [same.price]
  dsimp only
  generalize s.gate.admission _ _ _ _ = x at admitted ⊢
  generalize t.gate.admission _ _ _ _ = y at admitted ⊢
  obtain ⟨answer, after⟩ := admitted
  cases answer with
  | some admitted => exact same.answer after _
  | none => exact same.answer after _

theorem start (same : s.Resembles t)
    (lasting : 0 < s.gate.ledger.budget.period) (id tenant : String)
    (target : CallTarget) :
    Agree Resembles (s.start id tenant target) (t.start id tenant target) := by
  have started := same.gates.start lasting tenant (t.price target).1
    (t.price target).2
  unfold Session.start
  rw [same.price]
  dsimp only
  generalize s.gate.start _ _ _ = x at started ⊢
  generalize t.gate.start _ _ _ = y at started ⊢
  obtain ⟨entry, after⟩ := started
  cases entry with
  | running call =>
      exact .intro _ { same with
        gates := after
        calls := congrArg (Assoc.insert · id call) same.calls }
  | refused refusal => exact same.answer after _
  | clockOverflow => exact same.answer after _

theorem finish (same : s.Resembles t) (id : String)
    (result : Except String String) :
    Agree Resembles (s.finish id result) (t.finish id result) := by
  unfold Session.finish
  rw [same.calls]
  cases t.calls.get? id with
  | none => exact same.look rfl
  | some call =>
      have finished := same.gates.finish call result
      dsimp only
      generalize s.gate.finish call result = x at finished ⊢
      generalize t.gate.finish call result = y at finished ⊢
      obtain ⟨answer, after⟩ := finished
      exact .intro _ { same with gates := after, calls := rfl }

theorem cancel (same : s.Resembles t) (id : String) :
    Agree Resembles (s.cancel id) (t.cancel id) := by
  unfold Session.cancel
  rw [same.calls]
  cases t.calls.get? id with
  | none => exact same.look rfl
  | some call =>
      exact .intro _ { same with
        gates := same.gates.refund call.hold "cancelled", calls := rfl }

/-! Steps -/

theorem ofAgree {step : Step} {x y : Answer × Session}
    (agree : Agree Resembles x y) :
    step.told x.1 = step.told y.1 ∧ x.2.Resembles y.2 :=
  ⟨congrArg step.told agree.answers, agree.after⟩

/-- Sessions that resemble each other tell the same, and go on to resemble each
other. -/
theorem step (same : s.Resembles t)
    (lasting : 0 < s.gate.ledger.budget.periodSecs) {step : Step}
    (lasts : step.IsLasting) :
    step.told (s.step step).1 = step.told (t.step step).1 ∧
      (s.step step).2.Resembles (t.step step).2 := by
  have period := BudgetSettings.period_pos lasting
  cases step with
  | advance duration =>
      exact ofAgree (same.answer (same.gates.advance duration) _)
  | readLog =>
      have meters : Telemetry.SameMeters s.gate.telemetry.readLog.2
          t.gate.telemetry.readLog.2 :=
        ⟨same.gates.meters.counts, same.gates.meters.gaugings⟩
      exact ⟨rfl, same.withGate { same.gates with meters }⟩
  | readMetrics =>
      exact ofAgree (same.look (congrArg₂ Answer.metrics
        same.gates.meters.counters same.gates.meters.gauges))
  | reload toml => exact ofAgree (same.reload toml)
  | request request =>
      have served := same.gates.serve request
      exact ofAgree (.of (congrArg Answer.response served.answers)
        (same.withGate served.after))
  | setOutage outage => exact ofAgree (same.setOutage outage)
  | store op => exact same.askStore lasts
  | storeSize => exact ⟨rfl, same⟩
  | reserve tenant cost => exact ofAgree (same.reserve period tenant cost)
  | rollback tenant cost => exact ofAgree (same.release tenant cost none)
  | refund tenant cost id => exact ofAgree (same.release tenant cost (some id))
  | budgetStatus tenant =>
      have read := same.gates.budgetStatus tenant
      exact ofAgree (.of (congrArg Answer.budgetStatus read.answers)
        (same.withGate read.after))
  | spendSnapshot tenant => exact ofAgree (same.spendSnapshot tenant)
  | limitFor tenant =>
      exact ofAgree (same.look
        (congrArg Answer.amount (same.gates.ledgers.limitFor tenant)))
  | keyFor tenant =>
      exact ofAgree (same.look
        (congrArg Answer.text (same.gates.ledgers.keyFor tenant)))
  | health =>
      rw [health_eq, health_eq, same.gates.ledgers.health]
      exact ⟨rfl, same⟩
  | updateBudget change => exact ofAgree (same.updateBudget change)
  | hold id tenant cost => exact ofAgree (same.hold period id tenant cost)
  | commitHold id => exact ofAgree (same.settle id fun gates _ => gates)
  | rollbackHold id reason =>
      exact ofAgree (same.settle id fun gates hold => gates.refund hold reason)
  | dropHold id =>
      exact ofAgree (same.settle id fun gates hold =>
        gates.refund hold "cancelled")
  | forgetHold id =>
      have told {g h : Gate} (gates : g.Resembles h) (hold : Hold) :=
        gates.tell [.log (.refundImpossible hold.tenant hold.cost)]
      exact ofAgree (same.settle id told)
  | breaker dependency action => exact ofAgree (same.breaker dependency action)
  | breakerSnapshots =>
      have read := same.gates.breakerSnapshots
      exact ofAgree (.of (congrArg Answer.breakerSnapshots read.answers)
        (same.withGate read.after))
  | breakerState dependency =>
      exact ofAgree (same.look (congrArg Answer.breakerState
        (Registry.state_of_prune_eq same.gates.registries dependency)))
  | sameBreaker one other =>
      have made := (same.gates.breaker one).2
      exact ofAgree (same.answer (made.breaker other).2 _)
  | resetBreaker dependency =>
      have reset := same.gates.resetBreaker dependency
      exact ofAgree (.of (congrArg Answer.flag reset.answers)
        (same.withGate reset.after))
  | resetBreakers => exact ofAgree (same.answer same.gates.resetBreakers _)
  | breakerCount =>
      exact ofAgree (same.look (congrArg Answer.size
        (Registry.size_of_prune_eq same.gates.registries)))
  | breakerConfig dependency =>
      exact ofAgree (same.look (congrArg Answer.breakerConfig (congrFun
        (Registry.configFor_of_prune_eq same.gates.registries) dependency)))
  | admission tenant target result =>
      exact ofAgree (same.admission period tenant target result)
  | start id tenant target => exact ofAgree (same.start period id tenant target)
  | finish id result => exact ofAgree (same.finish id result)
  | cancel id => exact ofAgree (same.cancel id)
  | providerFor model =>
      exact ofAgree (same.look
        (congrArg Answer.text (same.gates.providerFor model)))
  | estimate model inputTokens maxOutputTokens =>
      exact ofAgree (same.look (congrArg Answer.amount
        (same.gates.estimate model inputTokens maxOutputTokens)))
  | firstLimitFor tenant =>
      exact ofAgree (same.look (congrArg
        (Answer.amount <| BudgetSettings.limitFor · tenant) same.firstBudget))

end Resembles

theorem step_lasting (lasting : 0 < s.gate.ledger.budget.periodSecs)
    {step : Step} (lasts : step.IsLasting) :
    0 < (s.step step).2.gate.ledger.budget.periodSecs := by
  rw [(s.step_takes step).budget]
  cases step with
  | updateBudget change =>
      have given : change.periodSecs ≠ some 0 := lasts
      change 0 < change.periodSecs.getD _
      generalize change.periodSecs = secs at given ⊢
      match secs, given with
      | none, _ => exact lasting
      | some (secs + 1), _ => exact Nat.succ_pos secs
  | reload toml =>
      cases offered : Settings.ofToml toml with
      | error error =>
          simp only [Step.budget, Step.accepted?_of_error offered]
          exact lasting
      | ok settings =>
          simp only [Step.budget, Step.accepted?_of_ok offered]
          exact Settings.periodSecs_pos_of_ofToml offered
  | _ => exact lasting

end Session

end Tollgate
