import Mathlib.Data.List.TakeWhile
import Tollgate.Breaker.Basic

/-!
The history of a breaker as a window. Failures are pruned from the front only;
on a history in order that drops just the stale ones, wherever they are.
-/

namespace Tollgate

/-- On a list in order, dropping from the front what satisfies a test that holds
of all that comes before is the same as filtering it out. -/
theorem dropWhile_eq_filter_not {stale : Nat → Bool}
    (downward : ∀ a b, a ≤ b → stale b → stale a)
    {times : List Nat} (sorted : times.Pairwise (· ≤ ·)) :
    times.dropWhile stale = times.filter (! stale ·) := by
  induction times with
  | nil => rfl
  | cons first rest ih =>
      rw [List.pairwise_cons] at sorted
      by_cases gone : stale first
      · simp [gone, ih sorted.2]
      · have kept : ∀ time ∈ rest, (! stale time) = true := by
          intro time member
          by_contra out
          exact gone (downward first time (sorted.1 time member)
            (by simpa using out))
        simp [gone, List.filter_eq_self.mpr kept]

theorem dropWhile_dropWhile_of_imp {stale older : Nat → Bool}
    (weaker : ∀ time, stale time → older time) (times : List Nat) :
    (times.dropWhile stale).dropWhile older = times.dropWhile older := by
  induction times with
  | nil => rfl
  | cons first rest ih =>
      by_cases gone : stale first
      · simp [gone, weaker first gone, ih]
      · simp [gone]

namespace Breaker

theorem isStale_downward (b : Breaker) (now : Nat) :
    ∀ first second, first ≤ second →
      b.isStale now second → b.isStale now first := by
  intro first second before stale
  simp only [isStale, decide_eq_true_eq] at stale ⊢
  omega

theorem isStale_later (b : Breaker) {now later : Nat} (passed : now ≤ later)
    (failure : Nat) (stale : b.isStale now failure) :
    b.isStale later failure := by
  simp only [isStale, decide_eq_true_eq] at stale ⊢
  omega

theorem prune_prune_of_le (b : Breaker) {now later : Nat}
    (passed : now ≤ later) : (b.prune now).prune later = b.prune later :=
  congrArg ({ b with failures := · })
    (dropWhile_dropWhile_of_imp (b.isStale_later passed) b.failures)

@[simp]
theorem prune_prune (b : Breaker) (now : Nat) :
    (b.prune now).prune now = b.prune now :=
  b.prune_prune_of_le (Nat.le_refl now)

theorem prune_failures_of_sorted (b : Breaker) (now : Nat)
    (sorted : b.failures.Pairwise (· ≤ ·)) :
    (b.prune now).failures = b.failures.filter (! b.isStale now ·) :=
  dropWhile_eq_filter_not (b.isStale_downward now) sorted

end Breaker

end Tollgate
