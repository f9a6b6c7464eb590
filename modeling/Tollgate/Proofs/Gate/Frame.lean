import Tollgate.Gate.Admission
import Tollgate.Proofs.Admin.Serving
import Tollgate.Proofs.Spend.Live

/-!
What the operations of a gate leave alone. Breakers and signals have nothing to
do with money; reports on money leave every live entry as it is.
-/

namespace Tollgate

/-- What does not change while admissions go on, whether the store may go out of
reach meanwhile, and which limits may be in force. -/
structure Terms where
  keyPrefix : String
  refundDenied : Bool
  outages : Bool
  limits : Float → Prop

structure BudgetSettings.Obeys (terms : Terms) (b : BudgetSettings) : Prop where
  keyPrefix : b.keyPrefix = terms.keyPrefix
  refundDenied : b.refundDenied = terms.refundDenied
  limits : ∀ tenant, terms.limits (b.limitFor tenant)

namespace Gate

structure Obeys (terms : Terms) (g : Gate) : Prop where
  budget : g.ledger.budget.Obeys terms
  reachable : terms.outages = false → g.ledger.outage = none

variable {terms : Terms} {g h k : Gate}

theorem Obeys.keyFor (first : g.Obeys terms) (second : h.Obeys terms)
    (tenant : String) : h.ledger.keyFor tenant = g.ledger.keyFor tenant := by
  simp only [Ledger.keyFor, BudgetSettings.keyFor, first.budget.keyPrefix,
    second.budget.keyPrefix]

@[simp]
theorem tell_now (g : Gate) (signals : List Signal) :
    (g.tell signals).now = g.now := rfl

@[simp]
theorem tell_ledger (g : Gate) (signals : List Signal) :
    (g.tell signals).ledger = g.ledger := rfl

@[simp]
theorem tell_registry (g : Gate) (signals : List Signal) :
    (g.tell signals).registry = g.registry := rfl

@[simp]
theorem tell_nil (g : Gate) : g.tell [] = g := by
  simp [tell, Telemetry.add]

@[simp]
theorem tell_tell (g : Gate) (first second : List Signal) :
    (g.tell first).tell second = g.tell (first ++ second) := by
  simp [tell, Telemetry.add]

/-! Operations that have nothing to do with money -/

/-- Neither the ledger nor the time has changed. -/
structure SameBooks (g h : Gate) : Prop where
  ledger : h.ledger = g.ledger
  now : h.now = g.now

namespace SameBooks

theorem refl (g : Gate) : g.SameBooks g := ⟨rfl, rfl⟩

theorem trans (first : g.SameBooks h) (second : h.SameBooks k) :
    g.SameBooks k :=
  ⟨second.ledger.trans first.ledger, second.now.trans first.now⟩

theorem tell (g : Gate) (signals : List Signal) :
    g.SameBooks (g.tell signals) := ⟨rfl, rfl⟩

theorem breaker (g : Gate) (dependency : String) :
    g.SameBooks (g.breaker dependency).2 := ⟨rfl, rfl⟩

theorem putBreaker (g : Gate) (dependency : String) (step : BreakerStep) :
    g.SameBooks (g.putBreaker dependency step) := ⟨rfl, rfl⟩

theorem changeBreaker (g : Gate) (dependency : String)
    (change : Breaker → BreakerStep) :
    g.SameBooks (g.changeBreaker dependency change) :=
  (breaker g dependency).trans (putBreaker _ _ _)

theorem recordSuccess (g : Gate) (dependency : String) :
    g.SameBooks (g.recordSuccess dependency) := changeBreaker _ _ _

theorem recordFailure (g : Gate) (dependency : String) :
    g.SameBooks (g.recordFailure dependency) := changeBreaker _ _ _

theorem acquire (g : Gate) (dependency : String) :
    g.SameBooks (g.acquire dependency).2 :=
  (breaker g dependency).trans (putBreaker _ _ _)

theorem breakerSnapshot (g : Gate) (dependency : String) :
    g.SameBooks (g.breakerSnapshot dependency).2 :=
  (breaker g dependency).trans (putBreaker _ _ _)

theorem breakerSnapshots (g : Gate) : g.SameBooks g.breakerSnapshots.2 :=
  ⟨rfl, rfl⟩

theorem resetBreaker (g : Gate) (dependency : String) :
    g.SameBooks (g.resetBreaker dependency).2 := ⟨rfl, rfl⟩

theorem attempt (g : Gate) (call : Call) : g.SameBooks (g.attempt call).2 := by
  have asked := acquire g call.dependency
  unfold Gate.attempt
  split
  · rename_i after granted
    rw [granted] at asked
    exact asked
  · rename_i circuit after refused
    rw [refused] at asked
    exact asked.trans (tell _ _)

theorem hear (g : Gate) (call : Call) (result : Except String String) :
    g.SameBooks (g.hear call result).2 := by
  cases result with
  | ok value => exact recordSuccess g _
  | error message => exact (recordFailure g _).trans (tell _ _)

end SameBooks

theorem attempt_outcome {call : Call} {refusal : Refusal}
    (refused : g.attempt call = (some refusal, h)) :
    refusal.outcome = .breakerOpen := by
  unfold attempt at refused
  split at refused
  · cases refused
  · cases refused
    rfl

theorem hear_outcome {call : Call} {result : Except String String}
    {refusal : Refusal} (failed : g.hear call result = (.error refusal, h)) :
    refusal.outcome = .operationFailed := by
  cases result with
  | ok value => cases failed
  | error message =>
      cases failed
      rfl

/-! Operations that leave the live entries alone -/

/-- Time may have passed, and entries may have ended with it. What is live was
so before, and is unchanged. -/
structure Keeps (terms : Terms) (g h : Gate) : Prop where
  obeys : g.Obeys terms → h.Obeys terms
  nextPeriod : h.ledger.store.nextPeriod = g.ledger.store.nextPeriod
  sound : g.ledger.store.Sound → h.ledger.store.Sound
  live : ∀ key e, h.ledger.store.live? h.now key = some e →
    g.ledger.store.live? g.now key = some e

namespace Keeps

theorem refl (g : Gate) : g.Keeps terms g where
  obeys := id
  nextPeriod := rfl
  sound := id
  live _ _ := id

theorem trans (first : g.Keeps terms h) (second : h.Keeps terms k) :
    g.Keeps terms k where
  obeys := second.obeys ∘ first.obeys
  nextPeriod := second.nextPeriod.trans first.nextPeriod
  sound := second.sound ∘ first.sound
  live key e := first.live key e ∘ second.live key e

theorem of_sameBooks (same : g.SameBooks h) : g.Keeps terms h where
  obeys obeys := by
    constructor
    · rw [same.ledger]
      exact obeys.budget
    · rw [same.ledger]
      exact obeys.reachable
  nextPeriod := by rw [same.ledger]
  sound := by
    rw [same.ledger]
    exact id
  live := by
    rw [same.ledger, same.now]
    exact fun _ _ => id

theorem tell (g : Gate) (signals : List Signal) :
    g.Keeps terms (g.tell signals) :=
  of_sameBooks (SameBooks.tell g signals)

theorem advance (g : Gate) (duration : Nat) :
    g.Keeps terms (g.advance duration) where
  obeys obeys := { obeys with }
  nextPeriod := rfl
  sound := id
  live _ _ := SpendStore.live?_mono (Nat.le_add_right _ _)

theorem updateBudget (g : Gate) {budget : BudgetSettings}
    (allowed : budget.Obeys terms) :
    g.Keeps terms (g.updateBudget budget) where
  obeys obeys := { obeys with budget := allowed }
  nextPeriod := rfl
  sound := id
  live _ _ := id

theorem setOutage (g : Gate) {outage : Option StoreError}
    (allowed : terms.outages = false → outage = none) :
    g.Keeps terms { g with ledger := { g.ledger with outage } } where
  obeys obeys := { obeys with reachable := allowed }
  nextPeriod := rfl
  sound := id
  live _ _ := id

theorem spendSnapshot (g : Gate) (tenant : String) :
    g.Keeps terms (g.spendSnapshot tenant).2 := by
  unfold Gate.spendSnapshot Ledger.snapshot Ledger.current
  cases outage : g.ledger.outage with
  | some error => exact refl g
  | none =>
      exact {
        obeys := fun obeys =>
          { obeys with reachable := fun _ => rfl }
        nextPeriod := SpendStore.current_nextPeriod _ _ _
        sound := fun sound => sound.current _ _
        live := by
          intro key e live
          exact (SpendStore.current_live? _ _ _ _).symm.trans live }

end Keeps

/-! Requests -/

/-- The books are the same, but for a report on the spend of one tenant. -/
inductive Reports (g h : Gate) : Prop where
  | same (books : g.SameBooks h)
  | one (tenant : String) (books : (g.spendSnapshot tenant).2.SameBooks h)

namespace Reports

theorem refl (g : Gate) : g.Reports g := .same (.refl g)

theorem serveReset (g : Gate) (dependency : String) :
    g.Reports (g.serveReset dependency).2 := by
  have reset := SameBooks.resetBreaker g dependency
  unfold Gate.serveReset
  split
  · rename_i after missing
    rw [missing] at reset
    exact .same reset
  · rename_i after done
    rw [done] at reset
    exact .same ((reset.trans (SameBooks.tell _ _)).trans
      (SameBooks.breakerSnapshot _ _))

theorem serveOpen (g : Gate) (dependency : String) :
    g.Reports (g.serveOpen dependency).2 :=
  .same (((SameBooks.changeBreaker g dependency _).trans
    (SameBooks.tell _ _)).trans (SameBooks.breakerSnapshot _ _))

theorem serve (g : Gate) (request : Request) :
    g.Reports (g.serve request).2 := by
  have handled := Handles.serve g request
  generalize (g.serve request).2 = after at handled
  cases handled with
  | same => exact refl g
  | unhealthy error => exact .same (.tell g _)
  | reports => exact .same (.breakerSnapshots g)
  | snapshot tenant => exact .one tenant (.refl _)
  | resets dependency post => exact serveReset g dependency
  | opens dependency post => exact serveOpen g dependency

end Reports

theorem Keeps.serve (g : Gate) (request : Request) :
    g.Keeps terms (g.serve request).2 := by
  cases Reports.serve g request with
  | same books => exact .of_sameBooks books
  | one tenant books =>
      exact (spendSnapshot g tenant).trans (of_sameBooks books)

end Gate

end Tollgate
