import Tollgate.Proofs.Spend.Run

/-!
Periods by their ids. An id is given out once, so charges with the same id fall
into the same period of the same key, and a refund that names a period reaches
no other.
-/

namespace Tollgate.SpendStore

variable {s after : SpendStore} {now : Nat} {key other : String}
  {e : SpendEntry} {id endsAt : Nat}

/-- The id was given out for a period of the key that ends then. No other key
has it, and what periods the key has had since came later. -/
structure Knows (s : SpendStore) (key : String) (id endsAt : Nat) : Prop where
  given : id < s.nextPeriod
  only : ∀ other e, s.entries.get? other = some e → e.period = id →
    other = key ∧ e.expiresAt = endsAt
  rises : ∀ e, s.entries.get? key = some e → id ≤ e.period

theorem Orderly.knows (orderly : s.Orderly)
    (found : s.entries.get? key = some e) :
    s.Knows key e.period e.expiresAt := by
  constructor
  · exact orderly.given key e found
  · intro other f there same
    obtain rfl := orderly.distinct other key f e there found same
    rw [found] at there
    cases there
    exact ⟨rfl, rfl⟩
  · intro f there
    rw [found] at there
    cases there
    exact Nat.le_refl _

namespace Knows

theorem writes (knows : s.Knows key id endsAt)
    (writes : s.Writes now other after) : after.Knows key id endsAt := by
  have given := knows.given
  constructor
  · exact Nat.lt_of_lt_of_le given writes.nextPeriod_le
  · intro name f found same
    rcases writes.get?_cases found with ⟨e, before, kept⟩ | ⟨new, -, -⟩
    · rw [kept] at same ⊢
      exact knows.only name e before same
    · -- A new period has an id beyond all that were given out.
      omega
  · intro f found
    rcases writes.get?_cases found with ⟨e, before, kept⟩ | ⟨new, -, -⟩
    · rw [kept]
      exact knows.rises e before
    · omega

theorem run (knows : s.Knows key id endsAt) (ops : List (Nat × SpendOp)) :
    (s.run ops).2.Knows key id endsAt := by
  induction ops generalizing s with
  | nil => exact knows
  | cons event rest ih => exact ih (knows.writes (.perform s event.1 event.2))

theorem reserve (knows : s.Knows key id endsAt) {amount limit : Int}
    {length : Nat} {charge : Charge}
    (charged : (s.reserve now other amount limit length).1 = some charge) :
    (charge.period = id → other = key ∧ now < endsAt) ∧
      (other = key → id ≤ charge.period) := by
  cases live : s.live? now other with
  | some e =>
      obtain ⟨found, ends⟩ := live?_eq_some.mp live
      rw [reserve_of_live live] at charged
      cases charged
      constructor
      · intro same
        obtain ⟨own, ending⟩ := knows.only other e found same
        rw [SpendEntry.isLive, ending, decide_eq_true_eq] at ends
        exact ⟨own, ends⟩
      · rintro rfl
        exact knows.rises e found
  | none =>
      cases fits : Clock.after? now length with
      | some endsAt =>
          rw [reserve_of_ended live fits] at charged
          cases charged
          have new := s.nextPeriod_le_startedId now other endsAt
          have given := knows.given
          constructor
          · intro same
            dsimp only at same
            omega
          · intro _
            dsimp only
            omega
      | none =>
          rw [reserve_of_unfit live fits] at charged
          cases charged

end Knows

theorem reserve_entry {amount limit : Int} {length : Nat} {charge : Charge}
    (charged : (s.reserve now key amount limit length).1 = some charge) :
    ∃ e, (s.reserve now key amount limit length).2.entries.get? key = some e ∧
      e.period = charge.period := by
  cases live : s.live? now key with
  | some e =>
      rw [reserve_of_live live] at charged ⊢
      cases charged
      exact ⟨_, Assoc.get?_insert_self _ _ _, rfl⟩
  | none =>
      cases fits : Clock.after? now length with
      | some endsAt =>
          rw [reserve_of_ended live fits] at charged ⊢
          cases charged
          exact ⟨_, Assoc.get?_insert_self _ _ _, rfl⟩
      | none =>
          rw [reserve_of_unfit live fits] at charged
          cases charged

theorem release_of_past {period : Nat}
    (past : ∀ e, s.live? now key = some e → e.period ≠ period) (amount : Int) :
    (s.release now key amount (some period)).2 = s := by
  rcases s.release_cases now key amount (some period) with
    same | ⟨e, live, named, -⟩
  · exact same
  · have current : period = e.period := by simpa using named
    exact absurd current.symm (past e live)

theorem Sound.release_lowers (sound : s.Sound) (amount : Int) (period : Nat)
    (found : s.entries.get? other = some e) :
    ∃ f, (s.release now key amount (some period)).2.entries.get? other =
        some f ∧
      (f.total < e.total →
        other = key ∧ s.live? now key = some e ∧ e.period = period ∧
          e.total - f.total ≤ amount) := by
  rcases s.release_cases now key amount (some period) with
    same | ⟨g, live, named, written⟩
  · rw [same]
    exact ⟨e, found, fun lower => absurd lower (Int.lt_irrefl _)⟩
  · rw [written]
    by_cases own : key = other
    · subst own
      rw [(live?_eq_some.mp live).1] at found
      cases found
      refine ⟨_, Assoc.get?_insert_self _ _ _, fun lower => ?_⟩
      have entry := sound.live live
      have current : period = e.period := by simpa using named
      exact ⟨rfl, live, current.symm,
        Micros.sub_max_sub_le entry.nonneg entry.fits lower⟩
    · refine ⟨e, ?_, fun lower => absurd lower (Int.lt_irrefl _)⟩
      exact (Assoc.get?_insert_of_ne _ _ own).trans found

/-- Whatever has been asked of the store: entries differ in their ids, all of
which were given out; two charges with one id are of one key, the later one made
before the period of the first is over, and the ids of a key never fall. So a
refund for another period than the live one of its key does nothing at all, and
where no charge was negative, no total is, and a refund for a period lowers at
most the total of that one, by at most its amount. -/
theorem ids_identify_periods (ops : List (Nat × SpendOp)) :
    let s := (run {} ops).2
    (∀ key e, s.entries.get? key = some e → e.period < s.nextPeriod) ∧
      (∀ key other e f, s.entries.get? key = some e →
        s.entries.get? other = some f → e.period = f.period → key = other) ∧
      (∀ now key amount limit length charge,
        (s.reserve now key amount limit length).1 = some charge →
          let charged := (s.reserve now key amount limit length).2
          ∃ e, charged.entries.get? key = some e ∧ e.period = charge.period ∧
            ∀ between later other amount limit length next,
              ((charged.run between).2.reserve later other amount limit
                length).1 = some next →
              (next.period = charge.period →
                other = key ∧ later < e.expiresAt) ∧
              (other = key → charge.period ≤ next.period)) ∧
      (∀ now key amount period,
        (∀ e, s.live? now key = some e → e.period ≠ period) →
          (s.release now key amount (some period)).2 = s) ∧
      ((∀ event ∈ ops, event.2.ChargesFairly) →
        (∀ key e, s.entries.get? key = some e → 0 ≤ e.total) ∧
        ∀ now key amount period other e, s.entries.get? other = some e →
          ∃ f, (s.release now key amount (some period)).2.entries.get? other =
              some f ∧
            (f.total < e.total →
              other = key ∧ s.live? now key = some e ∧ e.period = period ∧
                e.total - f.total ≤ amount)) := by
  intro s
  have orderly : s.Orderly := orderly_empty.run ops
  refine ⟨orderly.given, orderly.distinct, ?_, ?_, ?_⟩
  · intro now key amount limit length charge answered charged
    obtain ⟨e, found, same⟩ := reserve_entry answered
    have knows : charged.Knows key e.period e.expiresAt :=
      (orderly.writes (.reserve s now key amount limit length)).knows found
    refine ⟨e, found, same, ?_⟩
    intro between later other amount limit length next again
    rw [← same]
    exact (knows.run between).reserve again
  · intro now key amount period past
    exact release_of_past past amount
  · intro fair
    have sound : s.Sound := sound_empty.run fair
    refine ⟨fun key e found => (sound key e found).nonneg, ?_⟩
    intro now key amount period other e found
    exact sound.release_lowers amount period found

/-- A period without length takes two ids, and a key that was dropped when it
was looked at starts anew. -/
theorem ids_identify_periods_anew :
    let ops : List (Nat × SpendOp) := [
      (0, .reserve "a" 10 100 0), (0, .reserve "b" 5 100 50),
      (60, .current "b"), (60, .reserve "b" 7 100 50)]
    let s := (run {} ops).2
    let charged := s.reserve 70 "b" 2 100 50
    let next := (charged.2.run [(110, .reserve "a" 1 100 20)]).2.reserve 111
      "b" 1 100 50
    s.live? 70 "b" = some ⟨7, 110, 3⟩ ∧
      charged.1 = some ⟨true, 9, 3⟩ ∧ next.1 = some ⟨true, 1, 5⟩ ∧
      3 ≤ 5 ∧ (s.release 70 "b" 4 (some 2)).2 = s ∧
      ∃ f, (s.release 70 "b" 4 (some 3)).2.entries.get? "b" = some f ∧
        (f.total < 7 → 7 - f.total ≤ 4) := by
  intro ops s charged next
  obtain ⟨-, -, charges, refunds, fair⟩ := ids_identify_periods ops
  have live : s.live? 70 "b" = some ⟨7, 110, 3⟩ := by decide +kernel
  have first : charged.1 = some ⟨true, 9, 3⟩ := by decide +kernel
  have second : next.1 = some ⟨true, 1, 5⟩ := by decide +kernel
  obtain ⟨e, -, -, later⟩ := charges 70 "b" 2 100 50 _ first
  have rises := (later _ 111 "b" 1 100 50 _ second).2 rfl
  have kept := refunds 70 "b" 4 2 fun e found => by
    rw [live] at found
    cases found
    decide
  have lowers := (fair (by simp [ops, SpendOp.ChargesFairly])).2 70 "b" 4 3 "b"
    _ (live?_eq_some.mp live).1
  obtain ⟨f, found, lower⟩ := lowers
  exact ⟨live, first, second, rises, kept, f, found, fun less =>
    (lower less).2.2.2⟩

end Tollgate.SpendStore
