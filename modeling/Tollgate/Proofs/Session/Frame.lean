import Tollgate.Proofs.Session.Facts

/-!
What a step of a session leaves alone: the charges that the program holds, but
for those it is about. To its gate a step does what gates do of themselves,
unless it is one of the few things that befall a gate.
-/

namespace Tollgate

namespace Step

/-- The step charges or settles the hold with the id. -/
def concerns (id : String) : Step → Bool
  | .hold other _ _ | .commitHold other | .rollbackHold other _
  | .dropHold other | .forgetHold other => other = id
  | _ => false

def IsFair : Step → Prop
  | .store op => op.IsFair
  | _ => True

end Step

namespace Gate

variable {g : Gate}

inductive Takes (g : Gate) : Step → Gate → Prop where
  | moves {step : Step} {after : Gate} (own : step.befalls = false)
      (moves : g.Moves after) : Takes g step after
  | passes (duration : Nat) : Takes g (.advance duration) (g.advance duration)
  | outage (outage : Option StoreError) :
      Takes g (.setOutage outage)
        { g with ledger := { g.ledger with outage } }
  | unreachable (op : SpendOp) : Takes g (.store op) g
  | asked (op : SpendOp) :
      Takes g (.store op)
        (g.withStore (g.ledger.store.perform g.now op).2)
  | changed (change : BudgetChange) :
      Takes g (.updateBudget change)
        (g.updateBudget (change.apply g.ledger.budget))
  | accepted {toml : String} {settings : Settings}
      (valid : Settings.ofToml toml = .ok settings) :
      Takes g (.reload toml) (g.reload settings)
  | rejected {toml : String} {error : ConfigError}
      (invalid : Settings.ofToml toml = .error error) :
      Takes g (.reload toml) g

namespace Takes

variable {step : Step} {after : Gate}

theorem orderly (takes : g.Takes step after)
    (before : g.ledger.store.Orderly) : after.ledger.store.Orderly := by
  cases takes with
  | moves own moves => exact moves.orderly before
  | asked op => exact before.perform g.now op
  | _ => exact before

theorem sound (takes : g.Takes step after) (fair : step.IsFair)
    (before : g.ledger.store.Sound) : after.ledger.store.Sound := by
  cases takes with
  | moves own moves => exact moves.sound before
  | asked op => exact before.perform g.now fair.chargesFairly
  | _ => exact before

end Takes

end Gate

namespace Session

variable {s : Session} {id other : String} {step : Step}

/-! The gate -/

theorem takes_askStore (s : Session) (op : SpendOp) :
    s.gate.Takes (.store op) (s.askStore op).2.gate := by
  unfold askStore
  split
  · exact .unreachable op
  · exact .asked op

theorem takes_reload (s : Session) (toml : String) :
    s.gate.Takes (.reload toml) (s.reload toml).2.gate := by
  unfold reload
  split
  · exact .accepted ‹_›
  · exact .rejected ‹_›

theorem step_takes (s : Session) (step : Step) :
    s.gate.Takes step (s.step step).2.gate := by
  cases own : step.befalls with
  | false => exact .moves own (s.step_speaks own).moves
  | true =>
      cases step with
      | advance duration => exact .passes duration
      | setOutage outage => exact .outage outage
      | store op => exact takes_askStore s op
      | updateBudget change => exact .changed change
      | reload toml => exact takes_reload s toml
      | _ => cases own

/-! The program's charges -/

theorem askStore_holds (s : Session) (op : SpendOp) :
    (s.askStore op).2.holds = s.holds := by
  unfold askStore
  split <;> rfl

theorem reload_holds (s : Session) (toml : String) :
    (s.reload toml).2.holds = s.holds := by
  unfold reload
  split <;> rfl

theorem usePermit_holds (s : Session) (id : String)
    (how : Gate → String → Gate) : (s.usePermit id how).2.holds = s.holds := by
  unfold usePermit
  split <;> rfl

theorem act_holds (s : Session) (dependency : String) (action : BreakerAction) :
    (s.act dependency action).2.holds = s.holds := by
  cases action with
  | acquire id =>
      unfold act
      dsimp only
      split <;> rfl
  | permitSuccess id | permitFailure id | permitDrop id =>
      exact usePermit_holds s id _
  | call | failures | ask | config => rfl

theorem breaker_holds (s : Session) (dependency : String)
    (action : BreakerAction) :
    (s.breaker dependency action).2.holds = s.holds :=
  act_holds { s with gate := (s.gate.breaker dependency).2 } dependency action

theorem admission_holds (s : Session) (tenant : String) (target : CallTarget)
    (result : Except String String) :
    (s.admission tenant target result).2.holds = s.holds := by
  unfold admission
  dsimp only
  split <;> rfl

theorem start_holds (s : Session) (id tenant : String) (target : CallTarget) :
    (s.start id tenant target).2.holds = s.holds := by
  unfold start
  dsimp only
  split <;> rfl

theorem finish_holds (s : Session) (id : String)
    (result : Except String String) :
    (s.finish id result).2.holds = s.holds := by
  unfold finish
  split <;> rfl

theorem cancel_holds (s : Session) (id : String) :
    (s.cancel id).2.holds = s.holds := by
  unfold cancel
  split <;> rfl

theorem hold_get?_of_ne (different : other ≠ id) (tenant : String)
    (cost : Float) :
    (s.hold other tenant cost).2.holds.get? id = s.holds.get? id := by
  unfold hold
  split
  · rfl
  · split
    · rfl
    · exact Assoc.get?_insert_of_ne _ _ different

theorem settle_get?_of_ne (different : other ≠ id)
    (how : Gate → Hold → Gate) :
    (s.settle other how).2.holds.get? id = s.holds.get? id := by
  unfold settle
  split
  · rfl
  · simp [Assoc.get?_erase, different]

theorem step_holds (others : step.concerns id = false) :
    (s.step step).2.holds.get? id = s.holds.get? id := by
  have unchanged {after : Session} (holds : after.holds = s.holds) :
      after.holds.get? id = s.holds.get? id := by rw [holds]
  cases step with
  | hold other tenant cost =>
      exact hold_get?_of_ne (of_decide_eq_false others) tenant cost
  | commitHold other | rollbackHold other reason | dropHold other
  | forgetHold other => exact settle_get?_of_ne (of_decide_eq_false others) _
  | store op => exact unchanged (askStore_holds s op)
  | reload toml => exact unchanged (reload_holds s toml)
  | reserve tenant cost => exact unchanged (by rw [step, reserve_eq])
  | rollback tenant cost => exact unchanged (by rw [step, release_eq])
  | refund tenant cost period => exact unchanged (by rw [step, release_eq])
  | spendSnapshot tenant => exact unchanged (by rw [step, spendSnapshot_eq])
  | health => exact unchanged (by rw [health_eq])
  | breaker dependency action =>
      exact unchanged (breaker_holds s dependency action)
  | admission tenant target result =>
      exact unchanged (admission_holds s tenant target result)
  | start id tenant target => exact unchanged (start_holds s id tenant target)
  | finish id result => exact unchanged (finish_holds s id result)
  | cancel id => exact unchanged (cancel_holds s id)
  | _ => rfl

/-! Runs -/

theorem run_orderly (orderly : s.gate.ledger.store.Orderly)
    (steps : List Step) : (s.run steps).2.gate.ledger.store.Orderly := by
  induction steps generalizing s with
  | nil => exact orderly
  | cons step rest ih => exact ih ((s.step_takes step).orderly orderly)

theorem run_sound (sound : s.gate.ledger.store.Sound) {steps : List Step}
    (fair : ∀ step ∈ steps, step.IsFair) :
    (s.run steps).2.gate.ledger.store.Sound := by
  induction steps generalizing s with
  | nil => exact sound
  | cons step rest ih =>
      have first := (s.step_takes step).sound (fair step List.mem_cons_self)
        sound
      exact ih first fun other member =>
        fair other (List.mem_cons_of_mem _ member)

theorem run_holds {steps : List Step}
    (others : ∀ step ∈ steps, step.concerns id = false) :
    (s.run steps).2.holds.get? id = s.holds.get? id := by
  induction steps generalizing s with
  | nil => rfl
  | cons step rest ih =>
      have first := step_holds (s := s) (others step List.mem_cons_self)
      have later := ih (s := (s.step step).2) fun other member =>
        others other (List.mem_cons_of_mem _ member)
      exact later.trans first

end Session

end Tollgate
