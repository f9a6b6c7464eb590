import Tollgate.Proofs.Gate.Facts
import Tollgate.Proofs.Session.Steps

/-!
What happens at a gate when the embedding program takes a step. It shows in the
answer, and where charges are taken back, in what the program keeps. The gate
tells of just that.
-/

namespace Tollgate

/-- It befalls the gate: time passes, the store is out of reach or is asked past
the ledger, or there are new settings. -/
def Step.befalls : Step → Bool
  | .advance _ | .setOutage _ | .store _ | .updateBudget _ | .reload _ => true
  | _ => false

def BreakerAnswer.facts (dependency : String) : BreakerAnswer → List Fact
  | .reply answer => Fact.ofAttempt dependency answer.isRefusal
  | _ => []

namespace Session

def holdFacts (s : Session) (id : String) : List Fact :=
  (s.holds.get? id).elim [] fun hold => s.gate.refundFacts hold.cost

def facts (s : Session) : Step → Answer → List Fact
  | .breaker dependency _, .breaker answer _ => answer.facts dependency
  | .admission _ target _, .admitted admitted =>
      s.gate.resultFacts (s.price target).1 (s.price target).2 admitted.result
  | .start _ _ target, .refusedAtStart refusal =>
      s.gate.refusalFacts (s.price target).1 (s.price target).2 refusal
  | .finish id _, .admitted admitted =>
      (s.calls.get? id).elim [] fun call =>
        s.gate.resultFacts call.dependency call.hold.cost admitted.result
  | .cancel id, _ =>
      (s.calls.get? id).elim [] fun call => s.gate.refundFacts call.hold.cost
  | .rollbackHold id _, _ | .dropHold id, _ => s.holdFacts id
  | .hold id _ _, .reservation reservation =>
      if reservation.period?.isSome then s.holdFacts id else []
  | _, .ledgerError .clockOverflow => [.overflowed]
  | _, _ => []

end Session

namespace Gate.Speaks

theorem repeated {change : Gate → Gate} (each : ∀ g, Speaks g [] (change g))
    (times : Nat) (g : Gate) : g.Speaks [] (times.repeat change g) := by
  induction times with
  | zero => exact refl
  | succ times ih => exact ih.followed (each _)

theorem callThrough (g : Gate) (dependency : String)
    (result : Except String String) :
    g.Speaks ((Session.callThrough g dependency result).1.facts dependency)
      (Session.callThrough g dependency result).2 := by
  have asked := acquire g dependency
  unfold Session.callThrough
  split <;> rename_i attempted <;> rw [attempted] at asked
  · exact asked
  · cases result with
    | ok value => exact asked.followed (recordSuccess _ _)
    | error error => exact asked.followed (recordFailure _ _)

end Gate.Speaks

namespace Session

open Gate (Speaks)

theorem usePermit_speaks (s : Session) (dependency id : String)
    {how : Gate → String → Gate} (each : ∀ g name, Speaks g [] (how g name)) :
    s.gate.Speaks ((s.usePermit id how).1.facts dependency)
      (s.usePermit id how).2.gate := by
  unfold usePermit
  split
  · exact .refl
  · exact each _ _

theorem act_speaks (s : Session) (dependency : String)
    (action : BreakerAction) :
    s.gate.Speaks ((s.act dependency action).1.facts dependency)
      (s.act dependency action).2.gate := by
  cases action with
  | acquire id =>
      have asked := Speaks.acquire s.gate dependency
      unfold act
      dsimp only
      split <;> rename_i attempted <;> rw [attempted] at asked
      · exact asked
      · exact asked
  | permitSuccess id =>
      exact usePermit_speaks s dependency id Speaks.recordSuccess
  | permitFailure id =>
      exact usePermit_speaks s dependency id Speaks.recordFailure
  | permitDrop id => exact usePermit_speaks s dependency id fun _ _ => .refl
  | call result => exact .callThrough s.gate dependency result
  | failures times =>
      exact .repeated (Speaks.recordFailure · dependency) times s.gate
  | ask op => exact .askBreaker s.gate dependency op
  | config => exact .breaker s.gate dependency

theorem breaker_speaks (s : Session) (dependency : String)
    (action : BreakerAction) :
    s.gate.Speaks
      (s.facts (.breaker dependency action) (s.breaker dependency action).1)
      (s.breaker dependency action).2.gate := by
  let made := { s with gate := (s.gate.breaker dependency).2 }
  have acted := (Speaks.breaker s.gate dependency).followed
    (act_speaks made dependency action)
  exact acted.follow (.breaker _ dependency)

theorem reserve_speaks (s : Session) (tenant : String) (cost : Float) :
    s.gate.Speaks
      (s.facts (.reserve tenant cost) (s.reserve tenant cost).1)
      (s.reserve tenant cost).2.gate := by
  have reserved := Speaks.reserve s.gate tenant cost
  unfold reserve
  split <;> rename_i answered <;> rw [answered] at reserved
  · exact reserved
  · rename_i error gate
    cases error with
    | invalidCost | store | clockOverflow => exact reserved

theorem hold_speaks (s : Session) (id tenant : String) (cost : Float) :
    s.gate.Speaks
      (s.facts (.hold id tenant cost) (s.hold id tenant cost).1)
      (s.hold id tenant cost).2.gate := by
  have reserved := Speaks.reserve s.gate tenant cost
  unfold hold
  split <;> rename_i answered <;> rw [answered] at reserved
  · rename_i error gate
    cases error with
    | invalidCost | store | clockOverflow => exact reserved
  · rename_i reservation gate
    split <;> rename_i period
    · have unheld : s.facts (.hold id tenant cost) (.reservation reservation) =
          [] := by
        simp only [facts, period, Option.isSome_none, Bool.false_eq_true,
          if_false]
      exact unheld ▸ reserved
    · simp only [facts, period, holdFacts, Option.isSome_some, if_true]
      cases s.holds.get? id with
      | none => exact reserved
      | some former =>
          have refunded := Speaks.refund gate former "cancelled"
          rw [reserved.moves.refundFacts] at refunded
          exact reserved.followed refunded

theorem spendSnapshot_speaks (s : Session) (tenant : String) :
    s.gate.Speaks
      (s.facts (.spendSnapshot tenant) (s.spendSnapshot tenant).1)
      (s.spendSnapshot tenant).2.gate := by
  have read := Speaks.spendSnapshot s.gate tenant
  unfold spendSnapshot
  split <;> rename_i answered <;> rw [answered] at read
  · exact read
  · exact read

theorem health_speaks (s : Session) :
    s.gate.Speaks (s.facts .health s.health.1) s.health.2.gate := by
  unfold health
  split
  · exact .refl
  · exact .refl

theorem settle_speaks (s : Session) (id : String) {how : Gate → Hold → Gate}
    {facts : Hold → List Fact}
    (each : ∀ hold, s.gate.Speaks (facts hold) (how s.gate hold)) :
    s.gate.Speaks ((s.holds.get? id).elim [] facts)
      (s.settle id how).2.gate := by
  unfold settle
  cases s.holds.get? id with
  | none => exact .refl
  | some hold => exact each hold

theorem settle_silent (s : Session) (id : String) {how : Gate → Hold → Gate}
    (each : ∀ g hold, Speaks g [] (how g hold)) {step : Step}
    (done : s.facts step .done = []) (unknown : s.facts step .unknownId = []) :
    s.gate.Speaks (s.facts step (s.settle id how).1)
      (s.settle id how).2.gate := by
  unfold settle
  split
  · exact unknown ▸ .refl
  · exact done ▸ each _ _

theorem release_speaks (s : Session) (tenant : String) (cost : Float)
    (period : Option Nat) {step : Step}
    (plain : ∀ answer, answer ≠ .ledgerError .clockOverflow →
      s.facts step answer = []) :
    s.gate.Speaks (s.facts step (s.release tenant cost period).1)
      (s.release tenant cost period).2.gate := by
  have released := Speaks.release s.gate tenant cost period
  have answered : (s.release tenant cost period).1 ≠
      .ledgerError .clockOverflow := by
    rw [release_eq]
    unfold Ledger.release
    split
    · exact nofun
    · split
      · exact nofun
      · exact nofun
  rw [plain _ answered]
  unfold release
  split <;> rename_i given <;> rw [given] at released <;> exact released

theorem admission_speaks (s : Session) (tenant : String) (target : CallTarget)
    (result : Except String String) :
    s.gate.Speaks
      (s.facts (.admission tenant target result)
        (s.admission tenant target result).1)
      (s.admission tenant target result).2.gate := by
  have spoken := Speaks.admission s.gate tenant (s.price target).1
    (s.price target).2 result
  unfold admission
  dsimp only
  split <;> rename_i admitted <;> rw [admitted] at spoken
  · exact spoken
  · exact spoken

theorem start_speaks (s : Session) (id tenant : String)
    (target : CallTarget) :
    s.gate.Speaks
      (s.facts (.start id tenant target) (s.start id tenant target).1)
      (s.start id tenant target).2.gate := by
  have spoken := Speaks.start s.gate tenant (s.price target).1
    (s.price target).2
  unfold start
  dsimp only
  split <;> rename_i started <;> rw [started] at spoken
  · exact spoken
  · exact spoken
  · exact spoken

theorem finish_speaks (s : Session) (id : String)
    (result : Except String String) :
    s.gate.Speaks (s.facts (.finish id result) (s.finish id result).1)
      (s.finish id result).2.gate := by
  unfold finish
  split <;> rename_i found
  · exact .refl
  · rename_i call
    simp only [facts, found, Option.elim_some]
    exact .finish s.gate call result

theorem cancel_speaks (s : Session) (id : String) :
    s.gate.Speaks (s.facts (.cancel id) (s.cancel id).1)
      (s.cancel id).2.gate := by
  unfold cancel
  split <;> rename_i found
  · simp only [look, facts, found, Option.elim_none]
    exact .refl
  · rename_i call
    simp only [facts, found, Option.elim_some]
    exact .refund s.gate call.hold "cancelled"

/-- A step that does not befall the gate brings about the facts that it is
answered with, and the gate tells of them. -/
theorem step_speaks (s : Session) {step : Step} (own : step.befalls = false) :
    s.gate.Speaks (s.facts step (s.step step).1) (s.step step).2.gate := by
  cases step with
  | advance | setOutage | store | updateBudget | reload => cases own
  | hold id tenant cost => exact hold_speaks s id tenant cost
  | commitHold id => exact settle_silent s id (fun _ _ => .refl) rfl rfl
  | rollbackHold id reason =>
      exact settle_speaks s id fun hold => .refund s.gate hold reason
  | dropHold id =>
      exact settle_speaks s id fun hold => .refund s.gate hold "cancelled"
  | forgetHold id =>
      exact settle_silent s id
        (fun g hold => .log g (.refundImpossible hold.tenant hold.cost) rfl)
        rfl rfl
  | readLog => exact .reads .refl _
  | request request => exact .serve s.gate request
  | reserve tenant cost => exact reserve_speaks s tenant cost
  | rollback tenant cost =>
      exact release_speaks s tenant cost none fun answer other => by
        cases answer <;> simp_all [facts]
  | refund tenant cost period =>
      exact release_speaks s tenant cost (some period) fun answer other => by
        cases answer <;> simp_all [facts]
  | budgetStatus tenant => exact .budgetStatus s.gate tenant
  | spendSnapshot tenant => exact spendSnapshot_speaks s tenant
  | health => exact health_speaks s
  | breaker dependency action => exact breaker_speaks s dependency action
  | breakerSnapshots => exact .breakerSnapshots s.gate
  | sameBreaker one other =>
      exact (Speaks.breaker s.gate one).followed (.breaker _ other)
  | resetBreaker dependency => exact .resetBreaker s.gate dependency
  | resetBreakers => exact .resetBreakers s.gate
  | admission tenant target result =>
      exact admission_speaks s tenant target result
  | start id tenant target => exact start_speaks s id tenant target
  | finish id result => exact finish_speaks s id result
  | cancel id => exact cancel_speaks s id
  | readMetrics | storeSize | limitFor | keyFor | breakerState | breakerCount
  | breakerConfig | providerFor | estimate | firstLimitFor => exact .refl

/-- A step that befalls the gate brings no facts about. -/
theorem step_undergoes (s : Session) {step : Step} (befalls : step.befalls) :
    s.facts step (s.step step).1 = [] ∧
      s.gate.Undergoes (s.step step).2.gate := by
  cases step with
  | advance => exact ⟨rfl, Nat.le_add_right _ _, rfl, .inl rfl⟩
  | setOutage => exact ⟨rfl, Nat.le_refl _, rfl, .inl rfl⟩
  | updateBudget => exact ⟨rfl, Nat.le_refl _, rfl, .inr ⟨_, _, rfl⟩⟩
  | store op =>
      change s.facts (.store op) (s.askStore op).1 = [] ∧
        s.gate.Undergoes (s.askStore op).2.gate
      unfold askStore
      split
      · exact ⟨rfl, Nat.le_refl _, rfl, .inl rfl⟩
      · exact ⟨rfl, Nat.le_refl _, rfl, .inl rfl⟩
  | reload toml =>
      change s.facts (.reload toml) (s.reload toml).1 = [] ∧
        s.gate.Undergoes (s.reload toml).2.gate
      unfold reload
      split
      · exact ⟨rfl, Nat.le_refl _, rfl, .inr ⟨_, _, rfl⟩⟩
      · exact ⟨rfl, Nat.le_refl _, rfl, .inl rfl⟩
  | _ => cases befalls

end Session

end Tollgate
