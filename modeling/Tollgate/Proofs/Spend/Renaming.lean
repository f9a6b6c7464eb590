import Mathlib.Logic.Equiv.Basic
import Tollgate.Proofs.Spend.Writes

/-!
Two spend stores that hold the same under one key but for the id of its period.
What is asked about the key they answer alike, up to a renaming of ids that grows
with the periods the key goes through.
-/

namespace Tollgate

def Charge.renamed (rename : Nat → Nat) (c : Charge) : Charge :=
  { c with period := rename c.period }

/-- Ids of the same periods in the two stores, the latest first. -/
abbrev Pairing := List (Nat × Nat)

namespace Pairing

def Rising (pairs : Pairing) : Prop :=
  pairs.Pairwise fun late early => early.1 < late.1 ∧ early.2 < late.2

def Follows (rename : Equiv.Perm Nat) (pairs : Pairing) : Prop :=
  ∀ pair ∈ pairs, rename pair.1 = pair.2

theorem Rising.exists_follows {pairs : Pairing} (rising : pairs.Rising) :
    ∃ rename, pairs.Follows rename := by
  induction pairs with
  | nil => exact ⟨Equiv.refl Nat, nofun⟩
  | cons last before ih =>
      obtain ⟨below, rising⟩ := List.pairwise_cons.mp rising
      obtain ⟨rename, follows⟩ := ih rising
      -- The last pair is met by one more swap, which earlier pairs do not feel.
      refine ⟨rename.trans (Equiv.swap (rename last.1) last.2), ?_⟩
      intro pair member
      rcases List.mem_cons.mp member with rfl | member
      · exact Equiv.swap_apply_left _ _
      · obtain ⟨first, second⟩ := below pair member
        have differs : rename pair.1 ≠ rename last.1 :=
          rename.injective.ne (Nat.ne_of_lt first)
        have met : rename pair.1 = pair.2 := follows pair member
        rw [met] at differs
        rw [Equiv.trans_apply, met]
        exact Equiv.swap_apply_of_ne_of_ne differs (Nat.ne_of_lt second)

end Pairing

namespace SpendStore

variable {s t after : SpendStore} {now : Nat} {key other : String}
  {pairs : Pairing} {e : SpendEntry} {id : Nat}

/-- The key has the same entry in both stores, its period under ids that are
paired, or none in either. -/
structure Alike (key : String) (pairs : Pairing) (s t : SpendStore) : Prop where
  rising : pairs.Rising
  given : ∀ pair ∈ pairs, pair.1 < s.nextPeriod ∧ pair.2 < t.nextPeriod
  entry : (s.entries.get? key = none ∧ t.entries.get? key = none) ∨
    ∃ e id, (e.period, id) ∈ pairs ∧ s.entries.get? key = some e ∧
      t.entries.get? key = some { e with period := id }

theorem alike_empty (key : String) : Alike key [] {} {} where
  rising := .nil
  given := nofun
  entry := .inl ⟨rfl, rfl⟩

namespace Alike

theorem live? (alike : Alike key pairs s t) (now : Nat) :
    (s.live? now key = none ∧ t.live? now key = none) ∨
      ∃ e id, (e.period, id) ∈ pairs ∧ s.live? now key = some e ∧
        t.live? now key = some { e with period := id } := by
  rcases alike.entry with ⟨none, none'⟩ | ⟨e, id, paired, found, found'⟩
  · exact .inl ⟨by simp [SpendStore.live?, none], by
      simp [SpendStore.live?, none']⟩
  · by_cases ends : e.isLive now
    · exact .inr ⟨e, id, paired, live?_eq_some.mpr ⟨found, ends⟩,
        live?_eq_some.mpr ⟨found', ends⟩⟩
    · have ends' : ({ e with period := id } : SpendEntry).isLive now = false :=
        eq_false_of_ne_true ends
      exact .inl ⟨by simp [SpendStore.live?, found, ends], by
        simp [SpendStore.live?, found', ends']⟩

theorem insert (alike : Alike key pairs s t) (paired : (e.period, id) ∈ pairs) :
    Alike key pairs { s with entries := s.entries.insert key e }
      { t with entries := t.entries.insert key { e with period := id } } where
  rising := alike.rising
  given := alike.given
  entry := .inr ⟨e, id, paired, Assoc.get?_insert_self _ _ _,
    Assoc.get?_insert_self _ _ _⟩

theorem start (alike : Alike key pairs s t) {n m : Nat} (total : Int)
    (endsAt : Nat) (new : s.nextPeriod ≤ n) (new' : t.nextPeriod ≤ m) :
    Alike key ((n, m) :: pairs)
      ⟨s.entries.insert key ⟨total, endsAt, n⟩, n + 1⟩
      ⟨t.entries.insert key ⟨total, endsAt, m⟩, m + 1⟩ where
  rising := by
    refine List.pairwise_cons.mpr ⟨fun pair member => ?_, alike.rising⟩
    obtain ⟨first, second⟩ := alike.given pair member
    exact ⟨Nat.lt_of_lt_of_le first new, Nat.lt_of_lt_of_le second new'⟩
  given := by
    intro pair member
    rcases List.mem_cons.mp member with rfl | member
    · exact ⟨Nat.lt_succ_self n, Nat.lt_succ_self m⟩
    · obtain ⟨first, second⟩ := alike.given pair member
      constructor
      · dsimp only
        omega
      · dsimp only
        omega
  entry := .inr ⟨⟨total, endsAt, n⟩, m, List.mem_cons_self,
    Assoc.get?_insert_self _ _ _, Assoc.get?_insert_self _ _ _⟩

theorem writes_other (alike : Alike key pairs s t)
    (writes : s.Writes now other after) (different : other ≠ key) :
    Alike key pairs after t where
  rising := alike.rising
  given pair member := by
    obtain ⟨first, second⟩ := alike.given pair member
    exact ⟨Nat.lt_of_lt_of_le first writes.nextPeriod_le, second⟩
  entry := by
    rw [writes.get?_other different]
    exact alike.entry

/-! Operations on the key -/

theorem reserve (alike : Alike key pairs s t) (now : Nat) (amount limit : Int)
    (length : Nat) :
    ∃ more : Pairing, (∀ pair ∈ pairs, pair ∈ more) ∧
      Alike key more (s.reserve now key amount limit length).2
        (t.reserve now key amount limit length).2 ∧
      ∀ rename, more.Follows rename →
        (t.reserve now key amount limit length).1 =
          (s.reserve now key amount limit length).1.map
            (·.renamed rename) := by
  rcases alike.live? now with ⟨ended, ended'⟩ | ⟨e, id, paired, live, live'⟩
  · cases fits : Clock.after? now length with
    | some endsAt =>
        rw [reserve_of_ended ended fits, reserve_of_ended ended' fits]
        refine ⟨_, fun pair => List.mem_cons_of_mem _,
          alike.start _ _ (s.nextPeriod_le_startedId now key endsAt)
            (t.nextPeriod_le_startedId now key endsAt), ?_⟩
        intro rename follows
        have same := follows _ List.mem_cons_self
        simp only [Option.map_some, Charge.renamed, same]
    | none =>
        rw [reserve_of_unfit ended fits, reserve_of_unfit ended' fits]
        refine ⟨pairs, fun pair => id, ?_, fun rename _ => rfl⟩
        rcases alike.entry with ⟨none, none'⟩ | ⟨e, id, paired, found, found'⟩
        · simp only [none, none']
          exact alike
        · simp only [found, found']
          exact alike.insert (e := { e with total := 0 }) paired
  · rw [reserve_of_live live, reserve_of_live live']
    refine ⟨pairs, fun pair => fun member => member,
      alike.insert (e := { e with total := _ }) paired, ?_⟩
    intro rename follows
    have same := follows _ paired
    simp only [Option.map_some, Charge.renamed, same]

theorem release (alike : Alike key pairs s t) (now : Nat) (amount : Int)
    (period : Option Nat) :
    ∃ after, Alike key pairs (s.release now key amount period).2 after ∧
      ∀ rename, pairs.Follows rename →
        t.release now key amount (period.map rename) =
          ((s.release now key amount period).1, after) := by
  rcases alike.live? now with ⟨ended, ended'⟩ | ⟨e, id, paired, live, live'⟩
  · refine ⟨t, ?_, fun rename follows => ?_⟩
    · rw [release_of_none ended]
      exact alike
    · rw [release_of_none ended, release_of_none ended']
  · -- A renaming is one to one, so a refund for another period stays one.
    have names : ∀ rename : Equiv.Perm Nat, pairs.Follows rename →
        (period.map rename).all (· == id) = period.all (· == e.period) := by
      intro rename follows
      have same : rename e.period = id := follows _ paired
      rw [← same]
      cases period with
      | none => rfl
      | some p => simp
    rw [release_of_live live]
    by_cases named : period.all (· == e.period)
    · rw [if_pos named]
      refine ⟨_, alike.insert (e := { e with total := _ }) paired, ?_⟩
      intro rename follows
      rw [release_of_live live', names rename follows, if_pos named]
    · rw [if_neg named]
      refine ⟨t, alike, fun rename follows => ?_⟩
      rw [release_of_live live', names rename follows, if_neg named]

theorem current (alike : Alike key pairs s t) (now : Nat) :
    (t.current now key).1 = (s.current now key).1 ∧
      Alike key pairs (s.current now key).2 (t.current now key).2 := by
  rcases alike.live? now with ⟨ended, ended'⟩ | ⟨e, id, paired, live, live'⟩
  · rw [current_of_none ended, current_of_none ended']
    refine ⟨rfl, { alike with entry := .inl ⟨?_, ?_⟩ }⟩
    · rw [Assoc.get?_erase, if_pos rfl]
    · rw [Assoc.get?_erase, if_pos rfl]
  · rw [current_of_live live, current_of_live live']
    exact ⟨rfl, alike⟩

end Alike

end SpendStore

end Tollgate
