import Mathlib.Logic.Basic
import Tollgate.Proofs.Spend.Period
import Tollgate.Spend.Expiring

/-!
Entries whose periods have ended make no difference. A store that keeps them
until their keys are used again answers as one that forgets every key at the
instant its period ends.
-/

namespace Tollgate

/-- A period to be started has a length, and an end that the clock can hold. -/
def SpendOp.IsTimely (now : Nat) : SpendOp → Prop
  | .reserve _ _ _ length => 0 < length ∧ now + length < Clock.limit
  | .release .. | .current _ => True

variable {s : SpendStore} {r : ExpiringStore} {now later : Nat}
  {key other : String} {e : SpendEntry} {op : SpendOp}
  {ops : List (Nat × SpendOp)}

/-- From now on, what the second store holds of live entries is what the first
one does. -/
structure Matches (now : Nat) (s : SpendStore) (r : ExpiringStore) : Prop where
  nextPeriod : s.nextPeriod = r.nextPeriod
  live : ∀ key later, now ≤ later →
    (r.entries.get? key).filter (·.isLive later) = s.live? later key

namespace Matches

theorem mono (same : Matches now s r) (passed : now ≤ later) :
    Matches later s r where
  nextPeriod := same.nextPeriod
  live key last after := same.live key last (Nat.le_trans passed after)

theorem get?_expire (same : Matches now s r) (key : String) :
    (r.expire now).entries.get? key = s.live? now key := by
  rw [← same.live key now (Nat.le_refl now)]
  exact Assoc.get?_filter _ _ _

theorem expire (same : Matches now s r) : Matches now s (r.expire now) where
  nextPeriod := same.nextPeriod
  live key later passed := by
    rw [same.get?_expire]
    cases live : s.live? later key with
    | some e =>
        rw [SpendStore.live?_mono passed live]
        exact Option.filter_some_pos (SpendStore.live?_eq_some.mp live).2
    | none =>
        have ended := SpendStore.live?_eq_none.mp live
        rw [Option.filter_eq_none_iff]
        intro e found
        rw [ended e (SpendStore.live?_eq_some.mp found).1]
        exact Bool.false_ne_true

theorem insert (same : Matches now s r) (key : String) (e : SpendEntry)
    (nextPeriod : Nat) :
    Matches now ⟨s.entries.insert key e, nextPeriod⟩
      ⟨r.entries.insert key e, nextPeriod⟩ where
  nextPeriod := rfl
  live other later passed := by
    simp only [SpendStore.live?, Assoc.get?_insert]
    split
    · rfl
    · exact same.live other later passed

theorem current (same : Matches now s r) (key : String) :
    Matches now (s.current now key).2 r where
  nextPeriod := (s.current_nextPeriod now key).trans same.nextPeriod
  live other later passed := by
    rw [s.current_live?_of_le passed]
    exact same.live other later passed

/-! Operation by operation -/

theorem performReserve (same : Matches now s r) {amount limit : Int}
    {length : Nat}
    (timely : (SpendOp.reserve key amount limit length).IsTimely now) :
    (s.perform now (.reserve key amount limit length)).1 =
        (r.perform now (.reserve key amount limit length)).1 ∧
      Matches now (s.perform now (.reserve key amount limit length)).2
        (r.perform now (.reserve key amount limit length)).2 := by
  have expired := same.expire
  have found := same.get?_expire key
  simp only [SpendStore.perform, ExpiringStore.perform, ExpiringStore.reserve,
    found]
  cases live : s.live? now key with
  | some e =>
      rw [SpendStore.reserve_of_live live, ← expired.nextPeriod]
      exact ⟨rfl, expired.insert _ _ _⟩
  | none =>
      have fits : Clock.after? now length = some (now + length) :=
        if_pos timely.2
      have ahead : now < now + length := Nat.lt_add_of_pos_right timely.1
      rw [SpendStore.reserve_of_ended live fits,
        SpendStore.startedId_of_lt ahead, ← expired.nextPeriod]
      exact ⟨rfl, expired.insert _ _ _⟩

theorem performRelease (same : Matches now s r) (key : String) (amount : Int)
    (period : Option Nat) :
    (s.perform now (.release key amount period)).1 =
        (r.perform now (.release key amount period)).1 ∧
      Matches now (s.perform now (.release key amount period)).2
        (r.perform now (.release key amount period)).2 := by
  have expired := same.expire
  have found := same.get?_expire key
  simp only [SpendStore.perform, ExpiringStore.perform, ExpiringStore.release,
    found]
  cases live : s.live? now key with
  | none =>
      rw [SpendStore.release_of_none live]
      exact ⟨rfl, expired⟩
  | some e =>
      rw [SpendStore.release_of_live live]
      by_cases named : period.all (· == e.period)
      · simp only [named, if_true, ← expired.nextPeriod]
        exact ⟨trivial, expired.insert _ _ _⟩
      · simp only [named, Bool.false_eq_true, if_false]
        exact ⟨trivial, expired⟩

theorem perform (same : Matches now s r) (timely : op.IsTimely now) :
    (s.perform now op).1 = (r.perform now op).1 ∧
      Matches now (s.perform now op).2 (r.perform now op).2 := by
  cases op with
  | reserve key amount limit length => exact same.performReserve timely
  | release key amount period => exact same.performRelease key amount period
  | current key =>
      refine ⟨?_, same.expire.current key⟩
      have found := same.get?_expire key
      simp only [SpendStore.perform, ExpiringStore.perform,
        SpendStore.current_fst, ExpiringStore.current, found]
      rfl

theorem run (same : Matches now s r) (inOrder : Clock.InOrder now ops)
    (timely : ∀ event ∈ ops, event.2.IsTimely event.1) :
    (s.run ops).1 = (r.run ops).1 := by
  induction ops generalizing now s r with
  | nil => rfl
  | cons event rest ih =>
      obtain ⟨instant, op⟩ := event
      obtain ⟨passed, restInOrder⟩ := inOrder
      -- Up to `now` the stores have been compared; `op` comes later.
      obtain ⟨answers, after⟩ :=
        (same.mono passed).perform (timely _ List.mem_cons_self)
      have later := ih after restInOrder fun event member =>
        timely event (List.mem_cons_of_mem _ member)
      rw [SpendStore.run_cons, ExpiringStore.run_cons]
      exact congrArg₂ List.cons answers later

end Matches

namespace SpendStore

def dropEnded (s : SpendStore) (now : Nat) : SpendStore :=
  { s with entries := s.entries.filter fun _ entry => entry.isLive now }

theorem matches_self (s : SpendStore) (now : Nat) :
    Matches now s ⟨s.entries, s.nextPeriod⟩ where
  nextPeriod := rfl
  live _ _ _ := rfl

theorem matches_dropEnded (s : SpendStore) (now : Nat) :
    Matches now (s.dropEnded now) ⟨s.entries, s.nextPeriod⟩ where
  nextPeriod := rfl
  live key later passed := by
    have kept := (s.matches_self now).expire.live key later passed
    rw [← (s.matches_self now).live key later passed] at kept
    exact kept.symm

/-- An entry stays in its period, which ends when it was to end, through
whatever is asked before. -/
theorem get?_run_of_early (found : s.entries.get? key = some e)
    (early : ∀ event ∈ ops, event.1 < e.expiresAt) :
    ∃ total, (s.run ops).2.entries.get? key = some { e with total } := by
  induction ops generalizing s e with
  | nil => exact ⟨e.total, found⟩
  | cons event rest ih =>
      have live : s.live? event.1 key = some e :=
        live?_eq_some.mpr
          ⟨found, decide_eq_true (early event List.mem_cons_self)⟩
      obtain ⟨total, after⟩ :=
        (Writes.perform s event.1 event.2).get?_of_live live
      obtain ⟨last, there⟩ := ih after fun other member =>
        early other (List.mem_cons_of_mem _ member)
      exact ⟨last, there⟩

/-- A period is over at the instant that the charge which started it has set,
neither earlier nor later, whatever is asked meanwhile. -/
theorem Orderly.reserve_again (orderly : s.Orderly)
    {opening again length nextLength : Nat}
    {amount limit nextAmount nextLimit : Int}
    (ended : s.live? opening key = none)
    (holds : opening + length < Clock.limit)
    (fits : again + nextLength < Clock.limit)
    (earlier : ∀ event ∈ ops, event.1 ≤ again) :
    let opened := s.reserve opening key amount limit length
    let next := (opened.2.run ops).2.reserve again key nextAmount nextLimit
      nextLength
    ∃ charge charge', opened.1 = some charge ∧ next.1 = some charge' ∧
      (charge'.period = charge.period ↔ again < opening + length) := by
  intro opened next
  let id := s.startedId opening key (opening + length)
  have started : opened = (some _, _) :=
    reserve_of_ended ended (if_pos holds) amount limit
  have found : opened.2.entries.get? key =
      some ⟨Micros.add 0 amount, opening + length, id⟩ := by
    rw [started]
    exact Assoc.get?_insert_self _ _ _
  have knows : opened.2.Knows key id (opening + length) :=
    (orderly.writes (.reserve _ _ _ _ _ _)).knows found
  have answered : Clock.after? again nextLength ≠ none := by
    simp [Clock.after?, fits]
  obtain ⟨charge', after, charged, -⟩ :=
    reserve_of_fits (.inr answered) nextAmount nextLimit
  refine ⟨_, charge', congrArg Prod.fst started, congrArg Prod.fst charged, ?_⟩
  constructor
  · intro same
    exact ((knows.run ops).reserve (congrArg Prod.fst charged)).1 same |>.2
  · intro early
    obtain ⟨total, stays⟩ := get?_run_of_early found fun event member =>
      Nat.lt_of_le_of_lt (earlier event member) early
    have live : (opened.2.run ops).2.live? again key =
        some ⟨total, opening + length, id⟩ :=
      live?_eq_some.mpr ⟨stays, decide_eq_true early⟩
    rw [reserve_of_live live] at charged
    cases charged
    rfl

/-- For charges whose periods have a length and an end that the clock can hold,
asked in the order of their instants: all answers are those of the store that
forgets each key as its period ends. In any of its states, dropping what has
ended changes no answer that is still to come. And a charge of a key falls into
the period that an earlier charge has started exactly if it is made before the
length given by that one has passed. -/
theorem answers_as_if_expired (ops : List (Nat × SpendOp))
    (inOrder : Clock.InOrder 0 ops)
    (timely : ∀ event ∈ ops, event.2.IsTimely event.1) :
    (run {} ops).1 = (ExpiringStore.run {} ops).1 ∧
      (∀ before now op after, ops = before ++ (now, op) :: after →
        let s := (run {} before).2
        (s.run ((now, op) :: after)).1 =
          ((s.dropEnded now).run ((now, op) :: after)).1) ∧
      ∀ before opening key amount limit length between again nextAmount
          nextLimit nextLength after,
        ops = before ++ (opening, .reserve key amount limit length) ::
          (between ++ (again, .reserve key nextAmount nextLimit nextLength) ::
            after) →
        let s := (run {} before).2
        let opened := s.reserve opening key amount limit length
        let next := (opened.2.run between).2.reserve again key nextAmount
          nextLimit nextLength
        s.live? opening key = none →
          ∃ charge charge', opened.1 = some charge ∧ next.1 = some charge' ∧
            (charge'.period = charge.period ↔ again < opening + length) := by
  refine ⟨?_, ?_, ?_⟩
  · exact (matches_self {} 0).run inOrder timely
  · rintro before now op after rfl s
    have later : Clock.InOrder now ((now, op) :: after) :=
      ⟨Nat.le_refl now, Clock.inOrder_of_append inOrder⟩
    have still : ∀ event ∈ (now, op) :: after, event.2.IsTimely event.1 :=
      fun event member => timely event (List.mem_append_right _ member)
    exact ((s.matches_self now).run later still).trans
      ((s.matches_dropEnded now).run later still).symm
  · rintro before opening key amount limit length between again nextAmount
      nextLimit nextLength after rfl s opened next ended
    have orderly : s.Orderly := orderly_empty.run before
    have opens := timely (opening, .reserve key amount limit length) (by simp)
    have charges := timely
      (again, .reserve key nextAmount nextLimit nextLength) (by simp)
    have earlier :=
      (Clock.le_of_inOrder_append (Clock.inOrder_of_append inOrder)).2
    exact orderly.reserve_again ended opens.2 charges.2 earlier

/-- A second charge asks for a longer period, a refund comes just before the
end, and at the very end come another refund, a look and a charge. -/
theorem answers_as_if_expired_at_the_end :
    let charges : List (Nat × SpendOp) := [
      (30, .reserve "a" 5 50 600), (59, .release "a" 3 (some 0)),
      (60, .release "a" 40 (some 0)), (60, .current "a")]
    let ops := (0, .reserve "a" 40 50 60) ::
      (charges ++ [(60, .reserve "a" 10 50 60)])
    Clock.InOrder 0 ops ∧ (∀ event ∈ ops, event.2.IsTimely event.1) ∧
      (run {} ops).1 = [.charge ⟨true, 40, 0⟩, .charge ⟨true, 45, 0⟩,
        .total 42, .total 0, .total 0, .charge ⟨true, 10, 1⟩] ∧
      (run {} ops).1 = (ExpiringStore.run {} ops).1 ∧
      ((⟨true, 10, 1⟩ : Charge).period = (⟨true, 40, 0⟩ : Charge).period ↔
        60 < 0 + 60) := by
  intro charges ops
  have inOrder : Clock.InOrder 0 ops := by decide
  have timely : ∀ event ∈ ops, event.2.IsTimely event.1 := by
    simp [ops, charges, SpendOp.IsTimely, Clock.limit, Clock.secs]
  obtain ⟨same, -, lasts⟩ := answers_as_if_expired ops inOrder timely
  obtain ⟨charge, charge', opened, next, ids⟩ :=
    lasts [] 0 "a" 40 50 60 charges 60 10 50 60 [] rfl rfl
  have first : some charge = some ⟨true, 40, 0⟩ :=
    opened.symm.trans (by decide +kernel)
  have last : some charge' = some ⟨true, 10, 1⟩ :=
    next.symm.trans (by decide +kernel)
  cases first
  cases last
  exact ⟨inOrder, timely, by decide +kernel, same, ids⟩

end SpendStore

end Tollgate
