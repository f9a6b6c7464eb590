import Tollgate.Proofs.Spend.Writes

/-!
What runs of operations leave in a spend store, whoever asked for them. Totals
fit into a word and every key has a period of its own; as long as no amount is
negative, no total is.
-/

namespace Tollgate

/-- No amount is negative. -/
def SpendOp.IsFair : SpendOp → Prop
  | .reserve _ amount _ _ | .release _ amount _ => 0 ≤ amount
  | .current _ => True

def SpendOp.ChargesFairly : SpendOp → Prop
  | .reserve _ amount _ _ => 0 ≤ amount
  | .release .. | .current _ => True

theorem SpendOp.IsFair.chargesFairly {op : SpendOp} (fair : op.IsFair) :
    op.ChargesFairly := by
  cases op with
  | reserve key amount limit period => exact fair
  | release key amount period => trivial
  | current key => trivial

namespace SpendStore

/-- A period is that of one key only. -/
structure Orderly (s : SpendStore) : Prop where
  fits : ∀ key e, s.entries.get? key = some e → e.total ≤ Micros.greatest
  given : ∀ key e, s.entries.get? key = some e → e.period < s.nextPeriod
  distinct : ∀ key other e f, s.entries.get? key = some e →
    s.entries.get? other = some f → e.period = f.period → key = other

variable {s after : SpendStore} {now : Nat} {key : String} {e : SpendEntry}

theorem orderly_empty : Orderly {} where
  fits key e found := by simp [Assoc.get?_empty] at found
  given key e found := by simp [Assoc.get?_empty] at found
  distinct key other e f found := by simp [Assoc.get?_empty] at found

namespace Orderly

theorem insert (orderly : s.Orderly) {nextPeriod : Nat}
    (later : s.nextPeriod ≤ nextPeriod) (fits : e.total ≤ Micros.greatest)
    (own : (∃ old, s.entries.get? key = some old ∧ e.period = old.period) ∨
      s.nextPeriod ≤ e.period ∧ e.period < nextPeriod) :
    Orderly ⟨s.entries.insert key e, nextPeriod⟩ := by
  have foreign : ∀ other f, key ≠ other → s.entries.get? other = some f →
      e.period ≠ f.period := by
    intro other f different found same
    rcases own with ⟨old, before, period⟩ | ⟨new, -⟩
    · exact different
        (orderly.distinct key other old f before found (period ▸ same))
    · have given := orderly.given other f found
      omega
  constructor
  · intro other f found
    rw [Assoc.get?_insert] at found
    split at found
    · cases found
      exact fits
    · exact orderly.fits other f found
  · intro other f found
    rw [Assoc.get?_insert] at found
    split at found
    · cases found
      rcases own with ⟨old, before, period⟩ | ⟨-, given⟩
      · have given := orderly.given key old before
        exact period ▸ Nat.lt_of_lt_of_le given later
      · exact given
    · exact Nat.lt_of_lt_of_le (orderly.given other f found) later
  · intro one other f g first second same
    rw [Assoc.get?_insert] at first second
    split at first <;> split at second
    · rename_i here there
      exact here.symm.trans there
    · rename_i here there
      cases first
      exact absurd same (foreign other g there second)
    · rename_i here there
      cases second
      exact absurd same.symm (foreign one f here first)
    · exact orderly.distinct one other f g first second same

theorem erase (orderly : s.Orderly) (key : String) :
    Orderly { s with entries := s.entries.erase key } := by
  have before : ∀ other f, (s.entries.erase key).get? other = some f →
      s.entries.get? other = some f := by
    intro other f found
    rw [Assoc.get?_erase] at found
    split at found
    · cases found
    · exact found
  exact {
    fits := fun other f found => orderly.fits other f (before other f found)
    given := fun other f found => orderly.given other f (before other f found)
    distinct := fun one other f g first second =>
      orderly.distinct one other f g (before one f first)
        (before other g second) }

theorem writes (orderly : s.Orderly) (writes : s.Writes now key after) :
    after.Orderly := by
  cases writes with
  | nothing => exact orderly
  | total e found total fits =>
      exact orderly.insert (Nat.le_refl _) fits (.inl ⟨e, found, rfl⟩)
  | period e nextPeriod ended fits new given =>
      have later := Nat.le_of_lt (Nat.lt_of_le_of_lt new given)
      exact orderly.insert later fits (.inr ⟨new, given⟩)
  | drop ended => exact orderly.erase key

theorem perform (orderly : s.Orderly) (now : Nat) (op : SpendOp) :
    (s.perform now op).2.Orderly :=
  orderly.writes (.perform s now op)

theorem release_of_foreign (orderly : s.Orderly) {other : String}
    (live : s.live? now key = some e) (different : other ≠ key) (amount : Int) :
    (s.release now other amount (some e.period)).2 = s := by
  rcases s.release_cases now other amount (some e.period) with
    same | ⟨f, found, period, -⟩
  · exact same
  · have shared : e.period = f.period := by simpa using period
    exact absurd
      (orderly.distinct other key f e (live?_eq_some.mp found).1
        (live?_eq_some.mp live).1 shared.symm) different

theorem run (orderly : s.Orderly) (ops : List (Nat × SpendOp)) :
    (s.run ops).2.Orderly := by
  induction ops generalizing s with
  | nil => exact orderly
  | cons event rest ih => exact ih (orderly.perform event.1 event.2)

end Orderly

theorem sound_empty : Sound {} := by
  intro key e found
  simp [Assoc.get?_empty] at found

namespace Sound

theorem reserve (sound : s.Sound) {amount : Int} (nonneg : 0 ≤ amount)
    (now : Nat) (key : String) (limit : Int) (period : Nat) :
    (s.reserve now key amount limit period).2.Sound := by
  by_cases fits : s.live? now key ≠ none ∨ Clock.after? now period ≠ none
  · obtain ⟨charge, after, reserved, charged⟩ :=
      reserve_of_fits fits amount limit
    rw [reserved]
    exact charged.sound sound nonneg
  · simp only [ne_eq, not_or, Decidable.not_not] at fits
    obtain ⟨after, reserved, kept, -⟩ :=
      reserve_of_overflow fits.1 fits.2 amount limit
    rw [reserved]
    exact kept sound

theorem perform (sound : s.Sound) (now : Nat) {op : SpendOp}
    (fair : op.ChargesFairly) : (s.perform now op).2.Sound := by
  cases op with
  | reserve key amount limit period => exact sound.reserve fair now key _ _
  | release key amount period => exact Sound.release sound amount period
  | current key => exact Sound.current sound now key

theorem run (sound : s.Sound) {ops : List (Nat × SpendOp)}
    (fair : ∀ event ∈ ops, event.2.ChargesFairly) : (s.run ops).2.Sound := by
  induction ops generalizing s with
  | nil => exact sound
  | cons event rest ih =>
      have first := sound.perform event.1 (fair event List.mem_cons_self)
      exact ih first fun other member =>
        fair other (List.mem_cons_of_mem _ member)

end Sound

end SpendStore

end Tollgate
