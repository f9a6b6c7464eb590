import Tollgate.Proofs.Spend.Ledger
import Tollgate.Proofs.Spend.Live

/-!
Ended entries make no difference, as long as periods have a length. Stores with
the same live entries and the same next period answer alike from then on,
whatever else they hold.
-/

namespace Tollgate

namespace SpendStore

/-- The stores differ in what is left of ended periods at most. -/
structure Resembles (now : Nat) (s t : SpendStore) : Prop where
  nextPeriod : s.nextPeriod = t.nextPeriod
  live : ∀ key, s.live? now key = t.live? now key

variable {s t u : SpendStore} {now later : Nat}

theorem live?_filter (s : SpendStore) (passed : now ≤ later) (key : String) :
    s.live? later key = (s.live? now key).filter (·.isLive later) := by
  cases live : s.live? later key with
  | some e =>
      have ends := (live?_eq_some.mp live).2
      rw [live?_mono passed live, Option.filter_some_pos]
      exact ends
  | none =>
      have ended := live?_eq_none.mp live
      rw [eq_comm, Option.filter_eq_none_iff]
      intro e found
      rw [ended e (live?_eq_some.mp found).1]
      exact Bool.false_ne_true

namespace Resembles

theorem refl (now : Nat) (s : SpendStore) : Resembles now s s :=
  ⟨rfl, fun _ => rfl⟩

theorem trans (first : Resembles now s t) (second : Resembles now t u) :
    Resembles now s u :=
  ⟨first.nextPeriod.trans second.nextPeriod,
    fun key => (first.live key).trans (second.live key)⟩

theorem mono (same : Resembles now s t) (passed : now ≤ later) :
    Resembles later s t where
  nextPeriod := same.nextPeriod
  live key := by
    rw [s.live?_filter passed, t.live?_filter passed, same.live]

theorem insert (same : Resembles now s t) (key : String) (e : SpendEntry)
    (nextPeriod : Nat) :
    Resembles now ⟨s.entries.insert key e, nextPeriod⟩
      ⟨t.entries.insert key e, nextPeriod⟩ where
  nextPeriod := rfl
  live other := by
    simp only [live?, Assoc.get?_insert]
    split
    · rfl
    · exact same.live other

theorem current_self (s : SpendStore) (now : Nat) (key : String) :
    Resembles now (s.current now key).2 s where
  nextPeriod := s.current_nextPeriod now key
  live other := s.current_live? now key other

/-! Operation by operation -/

theorem reserve (same : Resembles now s t) {period : Nat} (lasting : 0 < period)
    (key : String) (amount limit : Int) :
    (s.reserve now key amount limit period).1 =
        (t.reserve now key amount limit period).1 ∧
      Resembles now (s.reserve now key amount limit period).2
        (t.reserve now key amount limit period).2 := by
  have alike := same.live key
  cases live : s.live? now key with
  | some e =>
      rw [live] at alike
      rw [reserve_of_live live, reserve_of_live alike.symm, same.nextPeriod]
      exact ⟨rfl, same.insert _ _ _⟩
  | none =>
      rw [live] at alike
      cases ends : Clock.after? now period with
      | none =>
          obtain ⟨after, given, -, next, kept⟩ :=
            reserve_of_overflow live ends amount limit
          obtain ⟨after', given', -, next', kept'⟩ :=
            reserve_of_overflow alike.symm ends amount limit
          rw [given, given']
          refine ⟨rfl, next.trans (same.nextPeriod.trans next'.symm), ?_⟩
          intro other
          exact (kept other).trans ((same.live other).trans (kept' other).symm)
      | some endsAt =>
          -- A period without length would take one id more in a store that has
          -- nothing left of the key than in one that has an ended entry.
          have ahead : now < endsAt := by
            unfold Clock.after? at ends
            split at ends
            · cases ends
              omega
            · cases ends
          rw [reserve_of_ended live ends, reserve_of_ended alike.symm ends,
            startedId_of_lt ahead, startedId_of_lt ahead, same.nextPeriod]
          exact ⟨rfl, same.insert _ _ _⟩

theorem release (same : Resembles now s t) (key : String) (amount : Int)
    (period : Option Nat) :
    (s.release now key amount period).1 = (t.release now key amount period).1 ∧
      Resembles now (s.release now key amount period).2
        (t.release now key amount period).2 := by
  have alike := same.live key
  cases live : s.live? now key with
  | none =>
      rw [live] at alike
      rw [release_of_none live, release_of_none alike.symm]
      exact ⟨rfl, same⟩
  | some e =>
      rw [live] at alike
      rw [release_of_live live, release_of_live alike.symm, same.nextPeriod]
      split
      · exact ⟨rfl, same.insert _ _ _⟩
      · exact ⟨rfl, same⟩

theorem current (same : Resembles now s t) (key : String) :
    (s.current now key).1 = (t.current now key).1 ∧
      Resembles now (s.current now key).2 (t.current now key).2 := by
  refine ⟨?_, ?_⟩
  · rw [current_fst, current_fst, liveTotal, liveTotal, same.live]
  · exact {
      nextPeriod := by simp [same.nextPeriod]
      live := fun other => by simp [current_live?, same.live] }

end Resembles

end SpendStore

namespace Ledger

structure Resembles (now : Nat) (l m : Ledger) : Prop where
  budget : l.budget = m.budget
  outage : l.outage = m.outage
  stores : l.store.Resembles now m.store

variable {l m n : Ledger} {now : Nat}

namespace Resembles

theorem refl (now : Nat) (l : Ledger) : Resembles now l l :=
  ⟨rfl, rfl, .refl now l.store⟩

theorem trans (first : Resembles now l m) (second : Resembles now m n) :
    Resembles now l n :=
  ⟨first.budget.trans second.budget, first.outage.trans second.outage,
    first.stores.trans second.stores⟩

theorem limitFor (same : Resembles now l m) (tenant : String) :
    l.limitFor tenant = m.limitFor tenant := by
  rw [Ledger.limitFor, Ledger.limitFor, same.budget]

theorem keyFor (same : Resembles now l m) (tenant : String) :
    l.keyFor tenant = m.keyFor tenant := by
  rw [Ledger.keyFor, Ledger.keyFor, same.budget]

theorem health (same : Resembles now l m) : l.health = m.health := by
  rw [Ledger.health, Ledger.health, same.outage]

theorem withStore (same : Resembles now l m) {s t : SpendStore}
    (stores : s.Resembles now t) :
    Resembles now { l with store := s } { m with store := t } :=
  ⟨same.budget, same.outage, stores⟩

theorem reserve (same : Resembles now l m) (lasting : 0 < l.budget.period)
    (tenant : String) (cost : Float) :
    (l.reserve now tenant cost).1 = (m.reserve now tenant cost).1 ∧
      (l.reserve now tenant cost).2.1 = (m.reserve now tenant cost).2.1 ∧
      Resembles now (l.reserve now tenant cost).2.2
        (m.reserve now tenant cost).2.2 := by
  cases valid : isAmount cost with
  | false =>
      rw [reserve_of_invalid valid, reserve_of_invalid valid]
      exact ⟨rfl, rfl, same⟩
  | true =>
      have outage := same.outage
      cases out : l.outage with
      | some error =>
          rw [out] at outage
          rw [reserve_of_outage valid out, reserve_of_outage valid outage.symm]
          exact ⟨rfl, rfl, same⟩
      | none =>
          rw [out] at outage
          rw [reserve_of_reachable valid out,
            reserve_of_reachable valid outage.symm, ← same.limitFor,
            ← same.keyFor, ← same.budget]
          obtain ⟨charge, stores⟩ := same.stores.reserve lasting
            (l.keyFor tenant) (Micros.ofAmount cost)
            (Micros.ofAmount (l.limitFor tenant))
          dsimp only
          rw [charge]
          exact ⟨rfl, rfl, rfl, same.outage, stores⟩

theorem release (same : Resembles now l m) (tenant : String) (cost : Float)
    (period : Option Nat) :
    (l.release now tenant cost period).1 =
        (m.release now tenant cost period).1 ∧
      Resembles now (l.release now tenant cost period).2
        (m.release now tenant cost period).2 := by
  cases valid : isAmount cost with
  | false =>
      rw [release_of_invalid valid, release_of_invalid valid]
      exact ⟨rfl, same⟩
  | true =>
      have outage := same.outage
      cases out : l.outage with
      | some error =>
          rw [out] at outage
          rw [release_of_outage valid out, release_of_outage valid outage.symm]
          exact ⟨rfl, same⟩
      | none =>
          rw [out] at outage
          rw [release_of_reachable valid out,
            release_of_reachable valid outage.symm, ← same.keyFor]
          obtain ⟨total, stores⟩ := same.stores.release (l.keyFor tenant)
            (Micros.ofAmount cost) period
          dsimp only
          rw [total]
          exact ⟨rfl, same.withStore stores⟩

theorem current (same : Resembles now l m) (tenant : String) :
    (l.current now tenant).1 = (m.current now tenant).1 ∧
      Resembles now (l.current now tenant).2 (m.current now tenant).2 := by
  have outage := same.outage
  cases out : l.outage with
  | some error =>
      rw [out] at outage
      rw [current_of_outage out, current_of_outage outage.symm]
      exact ⟨rfl, same⟩
  | none =>
      rw [out] at outage
      rw [current_of_reachable out, current_of_reachable outage.symm,
        ← same.keyFor]
      obtain ⟨total, stores⟩ := same.stores.current (l.keyFor tenant)
      dsimp only
      rw [total]
      exact ⟨rfl, same.withStore stores⟩

theorem status (same : Resembles now l m) (tenant : String) :
    (l.status now tenant).1 = (m.status now tenant).1 ∧
      (l.status now tenant).2.1 = (m.status now tenant).2.1 ∧
      Resembles now (l.status now tenant).2.2 (m.status now tenant).2.2 := by
  obtain ⟨total, after⟩ := same.current tenant
  unfold Ledger.status
  generalize l.current now tenant = read at total after
  generalize m.current now tenant = read' at total after
  obtain ⟨answer, l⟩ := read
  obtain ⟨answer', m⟩ := read'
  cases total
  cases answer with
  | ok total =>
      refine ⟨?_, rfl, after⟩
      simp only [after.limitFor]
  | error error => exact ⟨rfl, rfl, after⟩

theorem snapshot (same : Resembles now l m) (tenant : String) :
    (l.snapshot now tenant).1 = (m.snapshot now tenant).1 ∧
      Resembles now (l.snapshot now tenant).2 (m.snapshot now tenant).2 := by
  obtain ⟨total, after⟩ := same.current tenant
  unfold Ledger.snapshot
  generalize l.current now tenant = read at total after
  generalize m.current now tenant = read' at total after
  obtain ⟨answer, l⟩ := read
  obtain ⟨answer', m⟩ := read'
  cases total
  cases answer with
  | ok total =>
      refine ⟨?_, after⟩
      simp only [after.limitFor]
  | error error => exact ⟨rfl, after⟩

theorem current_self (l : Ledger) (now : Nat) (tenant : String) :
    Resembles now (l.current now tenant).2 l := by
  rcases l.current_ledger now tenant with same | asked
  · rw [same]
    exact .refl now l
  · rw [asked]
    exact ⟨rfl, rfl, .current_self l.store now _⟩

end Resembles

end Ledger

end Tollgate
