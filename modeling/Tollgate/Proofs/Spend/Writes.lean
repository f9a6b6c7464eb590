import Tollgate.Proofs.Spend.Live
import Tollgate.Spend.Run

/-!
What an operation writes into a spend store: at most the entry of its own key,
and a new period only where none is live.
-/

namespace Tollgate.SpendStore

variable {s after : SpendStore} {now later : Nat} {key other : String}
  {e f : SpendEntry} {op : SpendOp}

/-- An operation on a key sets the total of its entry, starts a period with an
id that was never given out, or drops what is left of an ended one. -/
inductive Writes (s : SpendStore) (now : Nat) (key : String) :
    SpendStore → Prop where
  | nothing : Writes s now key s
  | total (e : SpendEntry) (found : s.entries.get? key = some e)
      (total : Int) (fits : total ≤ Micros.greatest) :
      Writes s now key
        { s with entries := s.entries.insert key { e with total } }
  | period (e : SpendEntry) (nextPeriod : Nat)
      (ended : s.live? now key = none) (fits : e.total ≤ Micros.greatest)
      (new : s.nextPeriod ≤ e.period) (given : e.period < nextPeriod) :
      Writes s now key ⟨s.entries.insert key e, nextPeriod⟩
  | drop (ended : s.live? now key = none) :
      Writes s now key { s with entries := s.entries.erase key }

namespace Writes

theorem reserve (s : SpendStore) (now : Nat) (key : String)
    (amount limit : Int) (period : Nat) :
    s.Writes now key (s.reserve now key amount limit period).2 := by
  cases live : s.live? now key with
  | some e =>
      rw [reserve_of_live live]
      exact .total e (live?_eq_some.mp live).1 _ (Micros.saturate_le_greatest _)
  | none =>
      cases ends : Clock.after? now period with
      | some endsAt =>
          rw [reserve_of_ended live ends]
          exact .period _ _ live (Micros.saturate_le_greatest _)
            (s.nextPeriod_le_startedId now key endsAt) (Nat.lt_succ_self _)
      | none =>
          rw [reserve_of_unfit live ends]
          cases found : s.entries.get? key with
          | some e => exact .total e found 0 Micros.greatest_nonneg
          | none => exact .nothing

theorem release (s : SpendStore) (now : Nat) (key : String) (amount : Int)
    (period : Option Nat) :
    s.Writes now key (s.release now key amount period).2 := by
  rcases s.release_cases now key amount period with
    same | ⟨e, live, -, written⟩
  · rw [same]
    exact .nothing
  · rw [written]
    refine .total e (live?_eq_some.mp live).1 _ ?_
    exact Int.max_le.mpr
      ⟨Micros.greatest_nonneg, Micros.saturate_le_greatest _⟩

theorem current (s : SpendStore) (now : Nat) (key : String) :
    s.Writes now key (s.current now key).2 := by
  cases live : s.live? now key with
  | some e =>
      rw [current_of_live live]
      exact .nothing
  | none =>
      rw [current_of_none live]
      exact .drop live

theorem perform (s : SpendStore) (now : Nat) (op : SpendOp) :
    s.Writes now op.key (s.perform now op).2 := by
  cases op with
  | reserve key amount limit period => exact reserve s now key _ _ _
  | release key amount period => exact release s now key _ _
  | current key => exact current s now key

theorem nextPeriod_le (writes : s.Writes now key after) :
    s.nextPeriod ≤ after.nextPeriod := by
  cases writes with
  | nothing => exact Nat.le_refl _
  | total e found total fits => exact Nat.le_refl _
  | period e nextPeriod ended fits new given =>
      exact Nat.le_of_lt (Nat.lt_of_le_of_lt new given)
  | drop ended => exact Nat.le_refl _

theorem get?_other (writes : s.Writes now key after) (different : key ≠ other) :
    after.entries.get? other = s.entries.get? other := by
  cases writes with
  | nothing => rfl
  | total e found total fits => exact Assoc.get?_insert_of_ne _ _ different
  | period e nextPeriod ended fits new given =>
      exact Assoc.get?_insert_of_ne _ _ different
  | drop ended => rw [Assoc.get?_erase, if_neg different]

/-- An entry is in the period that its key was in before, with the same end, or
in a new one. -/
theorem get?_cases (writes : s.Writes now key after)
    (found : after.entries.get? other = some f) :
    (∃ e, s.entries.get? other = some e ∧ f = { e with total := f.total }) ∨
      s.nextPeriod ≤ f.period ∧ f.period < after.nextPeriod ∧ key = other := by
  by_cases same : key = other
  · subst same
    cases writes with
    | nothing => exact .inl ⟨f, found, rfl⟩
    | total e before total fits =>
        rw [Assoc.get?_insert_self] at found
        cases found
        exact .inl ⟨e, before, rfl⟩
    | period e nextPeriod ended fits new given =>
        rw [Assoc.get?_insert_self] at found
        cases found
        exact .inr ⟨new, given, rfl⟩
    | drop ended =>
        rw [Assoc.get?_erase, if_pos rfl] at found
        cases found
  · rw [writes.get?_other same] at found
    exact .inl ⟨f, found, rfl⟩

theorem get?_of_live (writes : s.Writes now key after)
    (live : s.live? now other = some e) :
    ∃ total, after.entries.get? other = some { e with total } := by
  have before := (live?_eq_some.mp live).1
  by_cases same : key = other
  · subst same
    cases writes with
    | nothing => exact ⟨e.total, before⟩
    | total f found total fits =>
        rw [found] at before
        cases before
        exact ⟨total, Assoc.get?_insert_self _ _ _⟩
    | period f nextPeriod ended fits new given =>
        rw [ended] at live
        cases live
    | drop ended =>
        rw [ended] at live
        cases live
  · exact ⟨e.total, (writes.get?_other same).trans before⟩

end Writes

end Tollgate.SpendStore
