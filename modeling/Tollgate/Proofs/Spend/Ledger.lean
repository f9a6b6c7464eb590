import Tollgate.Spend.Ledger

/-!
The ledger's operations, equation by equation: what they ask of the spend store,
if the amount is one and the store is in reach.
-/

namespace Tollgate.Ledger

def answerCharge (limit : Float) :
    Option Charge → Except LedgerError Reservation
  | none => .error .clockOverflow
  | some charge => .ok (.charged charge limit)

variable {l : Ledger} {tenant : String} {now : Nat} {cost : Float}
  {error : StoreError}

theorem keyFor_injective (l : Ledger) {first second : String}
    (same : l.keyFor first = l.keyFor second) : first = second := by
  unfold Ledger.keyFor BudgetSettings.keyFor at same
  exact (String.append_right_inj _).mp same

theorem reserve_of_invalid (invalid : isAmount cost = false) :
    l.reserve now tenant cost = (.error (.invalidCost cost), [], l) := by
  simp [reserve, invalid]

theorem reserve_of_outage (valid : isAmount cost)
    (outage : l.outage = some error) :
    l.reserve now tenant cost =
      (.ok (.unavailable error), [.log (.reservationDenied tenant error)],
        l) := by
  simp [reserve, valid, outage]

theorem reserve_of_reachable (valid : isAmount cost)
    (reachable : l.outage = none) :
    l.reserve now tenant cost =
      (answerCharge (l.limitFor tenant)
          (l.store.reserve now (l.keyFor tenant) (Micros.ofAmount cost)
            (Micros.ofAmount (l.limitFor tenant)) l.budget.period).1,
        [],
        { l with
          store := (l.store.reserve now (l.keyFor tenant) (Micros.ofAmount cost)
            (Micros.ofAmount (l.limitFor tenant)) l.budget.period).2 }) := by
  simp only [reserve, valid, reachable, Bool.not_true, Bool.false_eq_true,
    if_false]
  split <;> rename_i charged <;> rw [charged] <;> rfl

theorem reserve_ledger (l : Ledger) (now : Nat) (tenant : String)
    (cost : Float) :
    (l.reserve now tenant cost).2.2 = l ∨ isAmount cost ∧
      (l.reserve now tenant cost).2.2 =
        { l with
          store := (l.store.reserve now (l.keyFor tenant) (Micros.ofAmount cost)
            (Micros.ofAmount (l.limitFor tenant)) l.budget.period).2 } := by
  cases valid : isAmount cost with
  | false =>
      rw [reserve_of_invalid valid]
      exact .inl rfl
  | true =>
      rcases l.outage.eq_none_or_eq_some with reachable | ⟨error, outage⟩
      · rw [reserve_of_reachable valid reachable]
        exact .inr ⟨rfl, rfl⟩
      · rw [reserve_of_outage valid outage]
        exact .inl rfl

theorem release_of_invalid (invalid : isAmount cost = false)
    (period : Option Nat) :
    l.release now tenant cost period = (.error (.invalidCost cost), l) := by
  simp [release, invalid]

theorem release_of_outage (valid : isAmount cost)
    (outage : l.outage = some error) (period : Option Nat) :
    l.release now tenant cost period = (.error (.store error), l) := by
  simp [release, valid, outage]

theorem release_of_reachable (valid : isAmount cost)
    (reachable : l.outage = none) (period : Option Nat) :
    l.release now tenant cost period =
      (.ok (l.store.release now (l.keyFor tenant) (Micros.ofAmount cost)
          period).1,
        { l with
          store := (l.store.release now (l.keyFor tenant) (Micros.ofAmount cost)
            period).2 }) := by
  simp [release, valid, reachable]

theorem release_ledger (l : Ledger) (now : Nat) (tenant : String)
    (cost : Float) (period : Option Nat) :
    (l.release now tenant cost period).2 = l ∨ isAmount cost ∧
      (l.release now tenant cost period).2 =
        { l with
          store := (l.store.release now (l.keyFor tenant) (Micros.ofAmount cost)
            period).2 } := by
  cases valid : isAmount cost with
  | false =>
      rw [release_of_invalid valid]
      exact .inl rfl
  | true =>
      rcases l.outage.eq_none_or_eq_some with reachable | ⟨error, outage⟩
      · rw [release_of_reachable valid reachable]
        exact .inr ⟨rfl, rfl⟩
      · rw [release_of_outage valid outage]
        exact .inl rfl

theorem current_of_outage (outage : l.outage = some error) :
    l.current now tenant = (.error error, l) := by
  simp [current, outage]

theorem current_of_reachable (reachable : l.outage = none) :
    l.current now tenant =
      (.ok (l.store.current now (l.keyFor tenant)).1,
        { l with store := (l.store.current now (l.keyFor tenant)).2 }) := by
  simp [current, reachable]

theorem current_ledger (l : Ledger) (now : Nat) (tenant : String) :
    (l.current now tenant).2 = l ∨
      (l.current now tenant).2 =
        { l with store := (l.store.current now (l.keyFor tenant)).2 } := by
  rcases l.outage.eq_none_or_eq_some with reachable | ⟨error, outage⟩
  · rw [current_of_reachable reachable]
    exact .inr rfl
  · rw [current_of_outage outage]
    exact .inl rfl

/-! Reports ask for a total, and nothing else. -/

theorem status_ledger (l : Ledger) (now : Nat) (tenant : String) :
    (l.status now tenant).2.2 = (l.current now tenant).2 := by
  unfold status
  split <;> rename_i read <;> rw [read]

theorem snapshot_ledger (l : Ledger) (now : Nat) (tenant : String) :
    (l.snapshot now tenant).2 = (l.current now tenant).2 := by
  unfold snapshot
  split <;> rename_i read <;> rw [read]

end Tollgate.Ledger
