import Tollgate.Proofs.Gate.Frame
import Tollgate.Proofs.Spend.Ledger

/-!
Charges and refunds of a gate, case by case: what is answered, and what becomes
of the spend store.
-/

namespace Tollgate

namespace Gate

def live? (g : Gate) (tenant : String) : Option SpendEntry :=
  g.ledger.store.live? g.now (g.ledger.keyFor tenant)

/-- What the tenant has spent in its current period. -/
def spent (g : Gate) (tenant : String) : Int :=
  g.ledger.store.liveTotal g.now (g.ledger.keyFor tenant)

def withStore (g : Gate) (store : SpendStore) : Gate :=
  { g with ledger := { g.ledger with store } }

@[simp]
theorem withStore_budget (g : Gate) (store : SpendStore) :
    (g.withStore store).ledger.budget = g.ledger.budget := rfl

variable {g : Gate} {tenant dependency : String} {cost : Float}

theorem Keeps.live?_of_some {terms : Terms} {h : Gate} {e : SpendEntry}
    (keeps : g.Keeps terms h) (obeys : g.Obeys terms)
    (live : h.live? tenant = some e) : g.live? tenant = some e := by
  unfold Gate.live? at live ⊢
  rw [obeys.keyFor (keeps.obeys obeys)] at live
  exact keeps.live _ e live

/-! Charges -/

theorem charge_of_invalid (g : Gate) (tenant dependency : String)
    (rejected : isAmount cost = false) :
    ∃ message, g.charge tenant dependency cost =
      (.refused (.invalidRequest message), g) := by
  unfold charge reserve Ledger.reserve
  simp only [rejected, Bool.not_false, if_true, tell_nil]
  exact ⟨_, rfl⟩

theorem charge_of_outage (accepted : isAmount cost) {error : StoreError}
    (outage : g.ledger.outage = some error) :
    g.charge tenant dependency cost =
      (.refused (.ledgerUnavailable error.message),
        g.tell [.log (.reservationDenied tenant error),
          .log (.ledgerUnavailable tenant dependency error.message)]) := by
  unfold charge reserve Ledger.reserve
  simp only [accepted, outage, Bool.not_true, Bool.false_eq_true, if_false,
    tell_tell]
  rfl

theorem charge_of_overflow (accepted : isAmount cost)
    (reachable : g.ledger.outage = none) {store : SpendStore}
    (reserved : g.ledger.store.reserve g.now (g.ledger.keyFor tenant)
      (Micros.ofAmount cost) (Micros.ofAmount (g.ledger.limitFor tenant))
      g.ledger.budget.period = (none, store)) :
    g.charge tenant dependency cost = (.clockOverflow, g.withStore store) := by
  unfold charge reserve Ledger.reserve
  simp only [accepted, reachable, reserved, withStore, Bool.not_true,
    Bool.false_eq_true, if_false, tell_nil]

theorem charge_of_charged (accepted : isAmount cost)
    (reachable : g.ledger.outage = none) {answer : Charge} {store : SpendStore}
    (reserved : g.ledger.store.reserve g.now (g.ledger.keyFor tenant)
      (Micros.ofAmount cost) (Micros.ofAmount (g.ledger.limitFor tenant))
      g.ledger.budget.period = (some answer, store)) :
    g.charge tenant dependency cost =
      let hold : Hold := ⟨tenant, cost, answer.period⟩
      let limit := g.ledger.limitFor tenant
      let spend := Micros.toAmount answer.total
      if answer.allowed then (.held hold, g.withStore store)
      else
        (.denied hold (.budgetExceeded tenant spend limit),
          (g.withStore store).tell
            [.log (.overBudget tenant dependency spend limit)]) := by
  unfold charge reserve Ledger.reserve
  simp only [accepted, reachable, reserved, withStore, Bool.not_true,
    Bool.false_eq_true, if_false, tell_nil]

theorem charge_of_allowed (accepted : isAmount cost)
    (reachable : g.ledger.outage = none) {total : Int} {period : Nat}
    {store : SpendStore}
    (reserved : g.ledger.store.reserve g.now (g.ledger.keyFor tenant)
      (Micros.ofAmount cost) (Micros.ofAmount (g.ledger.limitFor tenant))
      g.ledger.budget.period = (some ⟨true, total, period⟩, store)) :
    g.charge tenant dependency cost =
      (.held ⟨tenant, cost, period⟩, g.withStore store) := by
  rw [charge_of_charged accepted reachable reserved]
  simp

inductive ChargeGives (g : Gate) (tenant dependency : String) (cost : Float) :
    Charging × Gate → Prop where
  | invalid (message : String) (rejected : isAmount cost = false) :
      ChargeGives g tenant dependency cost
        (.refused (.invalidRequest message), g)
  | unavailable (error : StoreError) (accepted : isAmount cost)
      (outage : g.ledger.outage = some error) :
      ChargeGives g tenant dependency cost
        (.refused (.ledgerUnavailable error.message),
          g.tell [.log (.reservationDenied tenant error),
            .log (.ledgerUnavailable tenant dependency error.message)])
  | overflow (store : SpendStore) (accepted : isAmount cost)
      (reachable : g.ledger.outage = none)
      (keeps : ∀ terms, g.Keeps terms (g.withStore store)) :
      ChargeGives g tenant dependency cost (.clockOverflow, g.withStore store)
  | charged (answer : Charge) (store : SpendStore) (accepted : isAmount cost)
      (reachable : g.ledger.outage = none)
      (charged : g.ledger.store.Charged g.now (g.ledger.keyFor tenant)
        (Micros.ofAmount cost) (Micros.ofAmount (g.ledger.limitFor tenant))
        answer store) :
      ChargeGives g tenant dependency cost
        (let hold : Hold := ⟨tenant, cost, answer.period⟩
        let limit := g.ledger.limitFor tenant
        let spend := Micros.toAmount answer.total
        if answer.allowed then (.held hold, g.withStore store)
        else
          (.denied hold (.budgetExceeded tenant spend limit),
            (g.withStore store).tell
              [.log (.overBudget tenant dependency spend limit)]))

theorem charge_gives (g : Gate) (tenant dependency : String) (cost : Float) :
    ChargeGives g tenant dependency cost (g.charge tenant dependency cost) := by
  cases accepted : isAmount cost with
  | false =>
      obtain ⟨message, given⟩ := charge_of_invalid g tenant dependency accepted
      rw [given]
      exact .invalid message accepted
  | true =>
      cases outage : g.ledger.outage with
      | some error =>
          rw [charge_of_outage accepted outage]
          exact .unavailable error accepted outage
      | none =>
          by_cases fits : g.live? tenant ≠ none ∨
              Clock.after? g.now g.ledger.budget.period ≠ none
          · obtain ⟨answer, store, reserved, charged⟩ :=
              SpendStore.reserve_of_fits fits (Micros.ofAmount cost)
                (Micros.ofAmount (g.ledger.limitFor tenant))
            rw [charge_of_charged accepted outage reserved]
            exact .charged answer store accepted outage charged
          · simp only [live?, ne_eq, not_or, Decidable.not_not] at fits
            obtain ⟨store, reserved, sound, same, live⟩ :=
              SpendStore.reserve_of_overflow fits.1 fits.2
                (Micros.ofAmount cost)
                (Micros.ofAmount (g.ledger.limitFor tenant))
            rw [charge_of_overflow accepted outage reserved]
            refine .overflow store accepted outage ?_
            intro terms
            exact {
              obeys := fun obeys => { obeys with }
              nextPeriod := same
              sound := sound
              live := by
                intro key e after
                exact (live key).symm.trans after }

theorem charged_of_held {hold : Hold} {h : Gate}
    (held : g.charge tenant dependency cost = (.held hold, h)) :
    isAmount cost ∧ ∃ answer store,
      g.ledger.store.Charged g.now (g.ledger.keyFor tenant)
        (Micros.ofAmount cost) (Micros.ofAmount (g.ledger.limitFor tenant))
        answer store ∧
      answer.allowed = true ∧ hold = ⟨tenant, cost, answer.period⟩ ∧
      h = g.withStore store := by
  have given := g.charge_gives tenant dependency cost
  rw [held] at given
  generalize result : (Charging.held hold, h) = gives at given
  cases given with
  | invalid message rejected => cases result
  | unavailable error accepted outage => cases result
  | overflow store accepted reachable keeps => cases result
  | charged answer store accepted reachable charged =>
      by_cases fits : answer.allowed
      · simp only [fits, if_true] at result
        cases result
        exact ⟨accepted, answer, store, charged, fits, rfl, rfl⟩
      · simp only [fits, Bool.false_eq_true, if_false] at result
        cases result

/-! Refunds -/

theorem refund_of_outage (hold : Hold) (reason : String)
    (accepted : isAmount hold.cost) {error : StoreError}
    (outage : g.ledger.outage = some error) :
    g.refund hold reason =
      g.tell [.log (.refundFailed hold.tenant hold.cost reason error)] := by
  unfold refund release Ledger.release
  simp only [accepted, outage, Bool.not_true, Bool.false_eq_true, if_false]

theorem refund_of_reachable (hold : Hold) (reason : String)
    (accepted : isAmount hold.cost) (reachable : g.ledger.outage = none) :
    g.refund hold reason =
      (g.withStore (g.ledger.store.release g.now (g.ledger.keyFor hold.tenant)
        (Micros.ofAmount hold.cost) (some hold.period)).2).tell
          [.count (.rollbacks reason)] := by
  unfold refund release Ledger.release
  simp only [accepted, reachable, withStore, Bool.not_true, Bool.false_eq_true,
    if_false]

end Gate

end Tollgate
