import Tollgate.Proofs.Spend.Ledger
import Tollgate.Proofs.Spend.Renaming

/-!
The ledger as one tenant has it. Another tenant's operations write under another
key; the tenant's own answers come from the entry under its key and the settings.
-/

namespace Tollgate

def Reservation.renamed (rename : Nat → Nat) : Reservation → Reservation
  | charged charge limit => charged (charge.renamed rename) limit
  | unavailable error => unavailable error

namespace Ledger

variable {l k after : Ledger} {tenant other : String} {now : Nat}
  {cost : Float} {error : StoreError} {pairs : Pairing}

/-! Operations of another tenant -/

inductive Serves (now : Nat) (tenant : String) (l : Ledger) :
    Ledger → Prop where
  | writes (store : SpendStore)
      (writes : l.store.Writes now (l.keyFor tenant) store) :
      Serves now tenant l { l with store }

namespace Serves

theorem refl (l : Ledger) (now : Nat) (tenant : String) :
    Serves now tenant l l := .writes l.store .nothing

theorem budget (serves : Serves now tenant l after) :
    after.budget = l.budget := by
  cases serves with
  | writes store writes => rfl

theorem reserve (l : Ledger) (now : Nat) (tenant : String) (cost : Float) :
    Serves now tenant l (l.reserve now tenant cost).2.2 := by
  rcases l.reserve_ledger now tenant cost with same | ⟨-, asked⟩
  · rw [same]
    exact refl l now tenant
  · rw [asked]
    exact .writes _ (.reserve _ _ _ _ _ _)

theorem release (l : Ledger) (now : Nat) (tenant : String) (cost : Float)
    (period : Option Nat) :
    Serves now tenant l (l.release now tenant cost period).2 := by
  rcases l.release_ledger now tenant cost period with same | ⟨-, asked⟩
  · rw [same]
    exact refl l now tenant
  · rw [asked]
    exact .writes _ (.release _ _ _ _ _)

theorem current (l : Ledger) (now : Nat) (tenant : String) :
    Serves now tenant l (l.current now tenant).2 := by
  rcases l.current_ledger now tenant with same | asked
  · rw [same]
    exact refl l now tenant
  · rw [asked]
    exact .writes _ (.current _ _ _)

theorem status (l : Ledger) (now : Nat) (tenant : String) :
    Serves now tenant l (l.status now tenant).2.2 := by
  rw [status_ledger]
  exact current l now tenant

theorem snapshot (l : Ledger) (now : Nat) (tenant : String) :
    Serves now tenant l (l.snapshot now tenant).2 := by
  rw [snapshot_ledger]
  exact current l now tenant

end Serves

/-! The tenant's own operations -/

structure Alike (tenant : String) (pairs : Pairing) (l k : Ledger) : Prop where
  budget : k.budget = l.budget
  outage : k.outage = l.outage
  stores : SpendStore.Alike (l.keyFor tenant) pairs l.store k.store

namespace Alike

theorem keyFor (alike : Alike tenant pairs l k) (tenant : String) :
    k.keyFor tenant = l.keyFor tenant := by
  unfold Ledger.keyFor
  rw [alike.budget]

theorem limitFor (alike : Alike tenant pairs l k) (tenant : String) :
    k.limitFor tenant = l.limitFor tenant := by
  unfold Ledger.limitFor
  rw [alike.budget]

theorem restored {more : Pairing} {s t : SpendStore}
    (alike : Alike tenant pairs l k)
    (stores : SpendStore.Alike (l.keyFor tenant) more s t) :
    Alike tenant more { l with store := s } { k with store := t } :=
  ⟨alike.budget, alike.outage, stores⟩

theorem update {budget : BudgetSettings} (alike : Alike tenant pairs l k)
    (keys : budget.keyPrefix = l.budget.keyPrefix) :
    Alike tenant pairs (l.update budget).2 (k.update budget).2 where
  budget := rfl
  outage := alike.outage
  stores := by
    have same : (l.update budget).2.keyFor tenant = l.keyFor tenant :=
      congrArg (· ++ ":" ++ tenant) keys
    rw [same]
    exact alike.stores

theorem serves_other (alike : Alike tenant pairs l k)
    (serves : Serves now other l after) (different : other ≠ tenant) :
    Alike tenant pairs after k := by
  obtain ⟨store, writes⟩ := serves
  have foreign : l.keyFor other ≠ l.keyFor tenant :=
    fun same => different (keyFor_injective l same)
  exact ⟨alike.budget, alike.outage, alike.stores.writes_other writes foreign⟩

theorem reserve (alike : Alike tenant pairs l k) (now : Nat) (cost : Float) :
    ∃ more : Pairing, (∀ pair ∈ pairs, pair ∈ more) ∧
      Alike tenant more (l.reserve now tenant cost).2.2
        (k.reserve now tenant cost).2.2 ∧
      ∀ rename, more.Follows rename →
        (k.reserve now tenant cost).1 =
          (l.reserve now tenant cost).1.map (·.renamed rename) := by
  cases valid : isAmount cost with
  | false =>
      rw [reserve_of_invalid valid, reserve_of_invalid valid]
      exact ⟨pairs, fun _ => id, alike, fun _ _ => rfl⟩
  | true =>
      cases outage : l.outage with
      | some error =>
          have outage' := alike.outage.trans outage
          rw [reserve_of_outage valid outage, reserve_of_outage valid outage']
          exact ⟨pairs, fun _ => id, alike, fun _ _ => rfl⟩
      | none =>
          have outage' := alike.outage.trans outage
          obtain ⟨more, grows, after, answers⟩ := alike.stores.reserve now
            (Micros.ofAmount cost) (Micros.ofAmount (l.limitFor tenant))
            l.budget.period
          have same : k.budget.period = l.budget.period :=
            congrArg BudgetSettings.period alike.budget
          rw [reserve_of_reachable valid outage,
            reserve_of_reachable valid outage', alike.keyFor, alike.limitFor,
            same]
          refine ⟨more, grows, alike.restored after, ?_⟩
          intro rename follows
          rw [answers rename follows]
          cases (l.store.reserve now _ _ _ _).1 with
          | none => rfl
          | some charge => rfl

theorem release (alike : Alike tenant pairs l k) (now : Nat) (cost : Float)
    (period : Option Nat) :
    ∃ after, Alike tenant pairs (l.release now tenant cost period).2 after ∧
      ∀ rename, pairs.Follows rename →
        k.release now tenant cost (period.map rename) =
          ((l.release now tenant cost period).1, after) := by
  cases valid : isAmount cost with
  | false =>
      rw [release_of_invalid valid]
      exact ⟨k, alike, fun rename _ => release_of_invalid valid _⟩
  | true =>
      cases outage : l.outage with
      | some error =>
          have outage' := alike.outage.trans outage
          rw [release_of_outage valid outage]
          exact ⟨k, alike, fun rename _ => release_of_outage valid outage' _⟩
      | none =>
          have outage' := alike.outage.trans outage
          obtain ⟨store, after, answers⟩ :=
            alike.stores.release now (Micros.ofAmount cost) period
          rw [release_of_reachable valid outage]
          refine ⟨{ k with store }, alike.restored after, ?_⟩
          intro rename follows
          rw [release_of_reachable valid outage', alike.keyFor,
            answers rename follows]

theorem current (alike : Alike tenant pairs l k) (now : Nat) :
    (k.current now tenant).1 = (l.current now tenant).1 ∧
      Alike tenant pairs (l.current now tenant).2
        (k.current now tenant).2 := by
  cases outage : l.outage with
  | some error =>
      have outage' := alike.outage.trans outage
      rw [current_of_outage outage, current_of_outage outage']
      exact ⟨rfl, alike⟩
  | none =>
      have outage' := alike.outage.trans outage
      obtain ⟨total, after⟩ := alike.stores.current now
      rw [current_of_reachable outage, current_of_reachable outage',
        alike.keyFor]
      exact ⟨congrArg Except.ok total, alike.restored after⟩

theorem status (alike : Alike tenant pairs l k) (now : Nat) :
    (k.status now tenant).1 = (l.status now tenant).1 ∧
      Alike tenant pairs (l.status now tenant).2.2
        (k.status now tenant).2.2 := by
  obtain ⟨totals, after⟩ := alike.current now
  rw [status_ledger, status_ledger]
  refine ⟨?_, after⟩
  have limits := after.limitFor tenant
  unfold Ledger.status
  generalize l.current now tenant = read at totals limits
  generalize k.current now tenant = read' at totals limits
  obtain ⟨total, l⟩ := read
  obtain ⟨total', k⟩ := read'
  cases totals
  cases total with
  | error error => rfl
  | ok total => exact congrArg (statusOf total <| Micros.ofAmount ·) limits

theorem snapshot (alike : Alike tenant pairs l k) (now : Nat) :
    (k.snapshot now tenant).1 = (l.snapshot now tenant).1 ∧
      Alike tenant pairs (l.snapshot now tenant).2
        (k.snapshot now tenant).2 := by
  obtain ⟨totals, after⟩ := alike.current now
  rw [snapshot_ledger, snapshot_ledger]
  refine ⟨?_, after⟩
  have limits := after.limitFor tenant
  unfold Ledger.snapshot
  generalize l.current now tenant = read at totals limits
  generalize k.current now tenant = read' at totals limits
  obtain ⟨total, l⟩ := read
  obtain ⟨total', k⟩ := read'
  cases totals
  cases total with
  | error error => rfl
  | ok total => exact congrArg (Except.ok ∘ snapshotOf tenant total) limits

end Alike

end Ledger

end Tollgate
