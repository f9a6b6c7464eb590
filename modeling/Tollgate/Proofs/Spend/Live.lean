import Tollgate.Assoc.Lemmas
import Tollgate.Proofs.Spend.Amount
import Tollgate.Spend.Store

/-!
A spend store by its live entries: those whose periods have not ended. What each
operation makes of them is said once here.
-/

namespace Tollgate

/-- An entry as operations leave it: its total can be one, and its period was
given out. -/
structure SpendEntry.Sound (nextPeriod : Nat) (e : SpendEntry) : Prop where
  nonneg : 0 ≤ e.total
  fits : e.total ≤ Micros.greatest
  given : e.period < nextPeriod

namespace SpendStore

def live? (s : SpendStore) (now : Nat) (key : String) : Option SpendEntry :=
  (s.entries.get? key).filter (·.isLive now)

/-- What the key has spent in its current period. -/
def liveTotal (s : SpendStore) (now : Nat) (key : String) : Int :=
  ((s.live? now key).map (·.total)).getD 0

def Sound (s : SpendStore) : Prop :=
  ∀ key e, s.entries.get? key = some e → e.Sound s.nextPeriod

variable {s : SpendStore} {now later : Nat} {key other : String}
  {e : SpendEntry}

theorem live?_eq_some :
    s.live? now key = some e ↔
      s.entries.get? key = some e ∧ e.isLive now := by
  simp [live?, Option.filter_eq_some_iff]

theorem live?_eq_none :
    s.live? now key = none ↔
      ∀ e, s.entries.get? key = some e → e.isLive now = false := by
  simp [live?, Option.filter_eq_none_iff]

theorem live?_mono (passed : now ≤ later) (live : s.live? later key = some e) :
    s.live? now key = some e := by
  rw [live?_eq_some] at live ⊢
  obtain ⟨found, ends⟩ := live
  refine ⟨found, ?_⟩
  simp only [SpendEntry.isLive, decide_eq_true_eq] at ends ⊢
  omega

theorem liveTotal_of_live (live : s.live? now key = some e) :
    s.liveTotal now key = e.total := by
  rw [liveTotal, live]
  rfl

theorem liveTotal_of_none (ended : s.live? now key = none) :
    s.liveTotal now key = 0 := by
  rw [liveTotal, ended]
  rfl

theorem Sound.live (sound : s.Sound) (live : s.live? now key = some e) :
    e.Sound s.nextPeriod :=
  sound key e (live?_eq_some.mp live).1

theorem Sound.liveTotal_nonneg (sound : s.Sound) (now : Nat) (key : String) :
    0 ≤ s.liveTotal now key := by
  cases live : s.live? now key with
  | none => exact Int.le_of_eq (liveTotal_of_none live).symm
  | some e =>
      rw [liveTotal_of_live live]
      exact (sound.live live).nonneg

theorem Sound.insert (sound : s.Sound) {nextPeriod : Nat}
    (later : s.nextPeriod ≤ nextPeriod) (entry : e.Sound nextPeriod) :
    Sound ⟨s.entries.insert key e, nextPeriod⟩ := by
  intro other found get
  rw [Assoc.get?_insert] at get
  split at get
  · cases get
    exact entry
  · have before := sound other found get
    exact { before with given := Nat.lt_of_lt_of_le before.given later }

/-! Charges -/

/-- What a charge of a key does. A key without a live period starts one that was
never given out before. -/
structure Charged (s : SpendStore) (now : Nat) (key : String)
    (amount limit : Int) (charge : Charge) (after : SpendStore) : Prop where
  allowed : charge.allowed = decide (charge.total ≤ limit)
  total : charge.total = Micros.add (s.liveTotal now key) amount
  same : ∀ e, s.live? now key = some e → charge.period = e.period
  fresh : s.live? now key = none → s.nextPeriod ≤ charge.period
  entry : ∃ endsAt, after.entries.get? key =
    some ⟨charge.total, endsAt, charge.period⟩
  live : ∀ e, s.live? now key = some e →
    after.live? now key = some { e with total := charge.total }
  others : ∀ other, key ≠ other →
    after.entries.get? other = s.entries.get? other
  grows : s.nextPeriod ≤ after.nextPeriod
  given : s.Sound → charge.period < after.nextPeriod

/-- The id of the period that a charge starts. A period without length on a new
key is started twice. -/
def startedId (s : SpendStore) (now : Nat) (key : String) (endsAt : Nat) :
    Nat :=
  if s.entries.get? key = none ∧ endsAt ≤ now then s.nextPeriod + 1
  else s.nextPeriod

theorem nextPeriod_le_startedId (s : SpendStore) (now : Nat) (key : String)
    (endsAt : Nat) : s.nextPeriod ≤ s.startedId now key endsAt := by
  unfold startedId
  split
  · exact Nat.le_succ _
  · exact Nat.le_refl _

theorem startedId_of_lt {endsAt : Nat} (ahead : now < endsAt) (key : String) :
    s.startedId now key endsAt = s.nextPeriod :=
  if_neg fun both => Nat.not_le_of_lt ahead both.2

theorem reserve_of_live (live : s.live? now key = some e)
    (amount limit : Int) (period : Nat) :
    s.reserve now key amount limit period =
      (some ⟨Micros.add e.total amount ≤ limit, Micros.add e.total amount,
          e.period⟩,
        { s with
          entries := s.entries.insert key
            { e with total := Micros.add e.total amount } }) := by
  obtain ⟨found, ends⟩ := live?_eq_some.mp live
  simp [reserve, freshEntry, found, ends]

theorem reserve_of_ended (ended : s.live? now key = none) {period endsAt : Nat}
    (fits : Clock.after? now period = some endsAt) (amount limit : Int) :
    let id := s.startedId now key endsAt
    s.reserve now key amount limit period =
      (some ⟨Micros.add 0 amount ≤ limit, Micros.add 0 amount, id⟩,
        ⟨s.entries.insert key ⟨Micros.add 0 amount, endsAt, id⟩, id + 1⟩) := by
  have gone := live?_eq_none.mp ended
  unfold reserve freshEntry startedId
  cases found : s.entries.get? key with
  | some e => simp [gone e found, fits, startPeriod]
  | none =>
      by_cases ahead : now < endsAt
      · have notOver : ¬ endsAt ≤ now := Nat.not_le_of_lt ahead
        simp [fits, startPeriod, SpendEntry.isLive, ahead, notOver]
      · have past : endsAt ≤ now := Nat.le_of_not_lt ahead
        simp [fits, startPeriod, SpendEntry.isLive, ahead, past]

theorem reserve_of_unfit (ended : s.live? now key = none) {period : Nat}
    (overflow : Clock.after? now period = none) (amount limit : Int) :
    s.reserve now key amount limit period =
      (none,
        match s.entries.get? key with
        | some e =>
            { s with entries := s.entries.insert key { e with total := 0 } }
        | none => s) := by
  have gone := live?_eq_none.mp ended
  unfold reserve freshEntry
  cases found : s.entries.get? key with
  | some e => simp [gone e found, overflow]
  | none => simp [overflow]

/-- Nothing is answered only when a period would have to start that the clock
cannot hold, and then the live entries stay as they are. -/
theorem reserve_of_overflow (ended : s.live? now key = none) {period : Nat}
    (overflow : Clock.after? now period = none) (amount limit : Int) :
    ∃ after, s.reserve now key amount limit period = (none, after) ∧
      (s.Sound → after.Sound) ∧ after.nextPeriod = s.nextPeriod ∧
      ∀ other, after.live? now other = s.live? now other := by
  refine ⟨_, reserve_of_unfit ended overflow amount limit, ?_⟩
  cases found : s.entries.get? key with
  | none => exact ⟨id, rfl, fun _ => rfl⟩
  | some e =>
      refine ⟨?_, rfl, ?_⟩
      · intro sound
        have before := sound key e found
        exact sound.insert (Nat.le_refl _)
          { before with
            nonneg := Int.le_refl 0
            fits := Micros.greatest_nonneg }
      · intro other
        by_cases same : key = other
        · subst same
          rw [ended, live?_eq_none]
          intro cleared get
          rw [Assoc.get?_insert_self] at get
          cases get
          exact live?_eq_none.mp ended e found
        · simp only [live?, Assoc.get?_insert_of_ne _ _ same]

theorem reserve_of_fits {period : Nat}
    (fits : s.live? now key ≠ none ∨ Clock.after? now period ≠ none)
    (amount limit : Int) :
    ∃ charge after,
      s.reserve now key amount limit period = (some charge, after) ∧
        s.Charged now key amount limit charge after := by
  cases live : s.live? now key with
  | some e =>
      refine ⟨_, _, reserve_of_live live amount limit period, ?_⟩
      have total := liveTotal_of_live live
      exact {
        allowed := rfl
        total := by rw [total]
        same := by
          intro found again
          rw [live] at again
          cases again
          rfl
        fresh := by
          intro none
          rw [live] at none
          cases none
        entry := ⟨e.expiresAt, Assoc.get?_insert_self _ _ _⟩
        live := by
          intro found again
          rw [live] at again
          cases again
          exact live?_eq_some.mpr
            ⟨Assoc.get?_insert_self _ _ _, (live?_eq_some.mp live).2⟩
        others := fun other different => Assoc.get?_insert_of_ne _ _ different
        grows := Nat.le_refl _
        given := fun sound => (sound.live live).given }
  | none =>
      obtain ⟨endsAt, fits⟩ :=
        Option.ne_none_iff_exists'.mp (fits.resolve_left (· live))
      refine ⟨_, _, reserve_of_ended live fits amount limit, ?_⟩
      have new := s.nextPeriod_le_startedId now key endsAt
      exact {
        allowed := rfl
        total := by rw [liveTotal_of_none live]
        same := by
          intro found again
          rw [live] at again
          cases again
        fresh := fun _ => new
        entry := ⟨endsAt, Assoc.get?_insert_self _ _ _⟩
        live := by
          intro found again
          rw [live] at again
          cases again
        others := fun other different => Assoc.get?_insert_of_ne _ _ different
        grows := Nat.le_succ_of_le new
        given := fun _ => Nat.lt_succ_self _ }

theorem late_of_reserve {amount limit : Int} {period : Nat}
    (unanswered : (s.reserve now key amount limit period).1 = none) :
    Clock.after? now period = none := by
  refine Decidable.byContradiction fun fits => ?_
  obtain ⟨charge, after, reserved, -⟩ :
      ∃ charge after, s.reserve now key amount limit period =
        (some charge, after) ∧ _ := reserve_of_fits (.inr fits) amount limit
  rw [reserved] at unanswered
  cases unanswered

namespace Charged

variable {amount limit : Int} {charge : Charge} {after : SpendStore}

theorem live?_self (charged : s.Charged now key amount limit charge after)
    (live : after.live? later key = some e) :
    e.total = charge.total ∧ e.period = charge.period := by
  obtain ⟨endsAt, entry⟩ := charged.entry
  have found := (live?_eq_some.mp live).1
  rw [entry] at found
  cases found
  exact ⟨rfl, rfl⟩

theorem live?_other (charged : s.Charged now key amount limit charge after)
    (different : key ≠ other) :
    after.live? later other = s.live? later other := by
  rw [live?, live?, charged.others other different]

theorem sound (charged : s.Charged now key amount limit charge after)
    (before : s.Sound) (nonneg : 0 ≤ amount) : after.Sound := by
  intro other e found
  by_cases same : key = other
  · subst same
    obtain ⟨endsAt, entry⟩ := charged.entry
    rw [entry] at found
    cases found
    have room := before.liveTotal_nonneg now key
    have total := charged.total
    rw [Micros.add_eq_of_nonneg room nonneg] at total
    have top := Micros.greatest_nonneg
    exact {
      nonneg := by
        change 0 ≤ charge.total
        omega
      fits := by
        change charge.total ≤ Micros.greatest
        omega
      given := charged.given before }
  · rw [charged.others other same] at found
    have entry := before other e found
    exact { entry with given := Nat.lt_of_lt_of_le entry.given charged.grows }

end Charged

/-! Refunds -/

theorem release_of_none (ended : s.live? now key = none) (amount : Int)
    (period : Option Nat) : s.release now key amount period = (0, s) := by
  have ended := live?_eq_none.mp ended
  unfold release
  cases found : s.entries.get? key with
  | none => rfl
  | some e => simp [ended e found]

theorem release_of_live (live : s.live? now key = some e) (amount : Int)
    (period : Option Nat) :
    s.release now key amount period =
      if period.all (· == e.period) then
        let total := max 0 (Micros.sub e.total amount)
        (total, { s with entries := s.entries.insert key { e with total } })
      else (e.total, s) := by
  obtain ⟨found, ends⟩ := live?_eq_some.mp live
  have cut : ∀ less : Int, (if less < 0 then 0 else less) = max 0 less := by
    intro less
    split <;> omega
  simp [release, found, ends, cut]

/-- A refund changes nothing but the total of a live period that it is for. -/
theorem release_cases (s : SpendStore) (now : Nat) (key : String) (amount : Int)
    (period : Option Nat) :
    (s.release now key amount period).2 = s ∨
      ∃ e, s.live? now key = some e ∧ period.all (· == e.period) ∧
        (s.release now key amount period).2 =
          { s with
            entries := s.entries.insert key
              { e with total := max 0 (Micros.sub e.total amount) } } := by
  cases live : s.live? now key with
  | none =>
      rw [release_of_none live]
      exact .inl rfl
  | some e =>
      rw [release_of_live live]
      by_cases current : period.all (· == e.period)
      · rw [if_pos current]
        exact .inr ⟨e, rfl, current, rfl⟩
      · rw [if_neg current]
        exact .inl rfl

theorem Sound.release (sound : s.Sound) (amount : Int) (period : Option Nat) :
    (s.release now key amount period).2.Sound := by
  rcases s.release_cases now key amount period with
    same | ⟨e, live, -, after⟩
  · rw [same]
    exact sound
  · rw [after]
    refine sound.insert (Nat.le_refl _)
      { sound.live live with nonneg := Int.le_max_left _ _, fits := ?_ }
    exact Int.max_le.mpr
      ⟨Micros.greatest_nonneg, Micros.saturate_le_greatest _⟩

@[simp]
theorem release_nextPeriod (s : SpendStore) (now : Nat) (key : String)
    (amount : Int) (period : Option Nat) :
    (s.release now key amount period).2.nextPeriod = s.nextPeriod := by
  rcases s.release_cases now key amount period with
    same | ⟨e, live, current, after⟩
  · rw [same]
  · rw [after]

theorem release_live?_other (different : key ≠ other) (amount : Int)
    (period : Option Nat) :
    (s.release now key amount period).2.live? later other =
      s.live? later other := by
  rcases s.release_cases now key amount period with
    same | ⟨e, live, current, after⟩
  · rw [same]
  · rw [after, live?, live?, Assoc.get?_insert_of_ne _ _ different]

theorem release_live?_self {amount : Int} {period : Nat} {found : SpendEntry}
    (live : (s.release now key amount (some period)).2.live? now key =
      some found) :
    ∃ e, s.live? now key = some e ∧ found.period = e.period ∧
      found.total = if e.period = period then
        max 0 (Micros.sub e.total amount) else e.total := by
  cases before : s.live? now key with
  | none =>
      rw [release_of_none before, before] at live
      cases live
  | some e =>
      rw [release_of_live before] at live
      refine ⟨e, rfl, ?_⟩
      by_cases current : e.period = period
      · subst current
        simp only [Option.all_some, beq_self_eq_true, if_true,
          live?_eq_some, Assoc.get?_insert_self] at live
        cases live.1
        exact ⟨rfl, (if_pos rfl).symm⟩
      · have past : (some period).all (· == e.period) = false := by
          simpa using Ne.symm current
        rw [past] at live
        simp only [Bool.false_eq_true, if_false, before] at live
        cases live
        exact ⟨rfl, (if_neg current).symm⟩

theorem live?_release_of_live (live : s.live? now key = some e) (amount : Int) :
    (s.release now key amount (some e.period)).2.live? now key =
      some { e with total := max 0 (Micros.sub e.total amount) } := by
  have ends := (live?_eq_some.mp live).2
  rw [release_of_live live, if_pos (by simp)]
  exact live?_eq_some.mpr ⟨Assoc.get?_insert_self _ _ _, ends⟩

/-! Reports -/

theorem current_of_live (live : s.live? now key = some e) :
    s.current now key = (e.total, s) := by
  obtain ⟨found, ends⟩ := live?_eq_some.mp live
  simp [current, found, ends]

theorem current_of_none (ended : s.live? now key = none) :
    s.current now key = (0, { s with entries := s.entries.erase key }) := by
  have ended := live?_eq_none.mp ended
  unfold current
  cases found : s.entries.get? key with
  | none => simp [Assoc.erase_of_get?_eq_none found]
  | some e => simp [ended e found]

theorem current_fst (s : SpendStore) (now : Nat) (key : String) :
    (s.current now key).1 = s.liveTotal now key := by
  cases live : s.live? now key with
  | some e => rw [current_of_live live, liveTotal_of_live live]
  | none => rw [current_of_none live, liveTotal_of_none live]

@[simp]
theorem current_nextPeriod (s : SpendStore) (now : Nat) (key : String) :
    (s.current now key).2.nextPeriod = s.nextPeriod := by
  cases live : s.live? now key with
  | some e => rw [current_of_live live]
  | none => rw [current_of_none live]

theorem current_live?_of_le (s : SpendStore) (passed : now ≤ later)
    (key other : String) :
    (s.current now key).2.live? later other = s.live? later other := by
  cases live : s.live? now key with
  | some e => rw [current_of_live live]
  | none =>
      rw [current_of_none live]
      by_cases same : key = other
      · subst same
        have ended : s.live? later key = none := by
          cases still : s.live? later key with
          | none => rfl
          | some e => rw [live?_mono passed still] at live; cases live
        rw [ended]
        simp [live?, Assoc.get?_erase]
      · simp [live?, Assoc.get?_erase, same]

theorem current_live? (s : SpendStore) (now : Nat) (key other : String) :
    (s.current now key).2.live? now other = s.live? now other :=
  s.current_live?_of_le (Nat.le_refl now) key other

theorem Sound.current (sound : s.Sound) (now : Nat) (key : String) :
    (s.current now key).2.Sound := by
  cases live : s.live? now key with
  | some e =>
      rw [current_of_live live]
      exact sound
  | none =>
      rw [current_of_none live]
      intro other e found
      rw [Assoc.get?_erase] at found
      split at found
      · cases found
      · exact sound other e found

end SpendStore

end Tollgate
