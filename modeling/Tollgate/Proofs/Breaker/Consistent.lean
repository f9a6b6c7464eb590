import Mathlib.Data.List.Induction
import Tollgate.Proofs.Breaker.Recovery

/-!
What holds of a breaker at every instant, whatever has been done with it. Its
history is in order and ends with its last failure, a closed breaker has room
for one more failure in its time window, and an open one has been open since
enough failures lay in the window or since it was forced. Pruning such a history
takes out what is stale, wherever it stands.
-/

namespace Tollgate.Breaker

variable {b next : Breaker} {now later : Nat} {op : BreakerOp}
  {ops : List (Nat × BreakerOp)}

/-! The time window -/

/-- The number of failures in the history that are younger than the time
window. -/
def recent (b : Breaker) (now : Nat) : Nat :=
  b.failures.countP (now - · < b.config.timeWindow)

theorem not_isStale (b : Breaker) (now failure : Nat) :
    (! b.isStale now failure) = decide (now - failure < b.config.timeWindow) := by
  simp only [isStale, ← decide_not, Nat.not_le]

theorem recent_le_of_sublist (part : next.failures.Sublist b.failures)
    (config : next.config = b.config) (now : Nat) :
    next.recent now ≤ b.recent now := by
  rw [recent, recent, config]
  exact part.countP_le

theorem recent_le_of_le (b : Breaker) (passed : now ≤ later) :
    b.recent later ≤ b.recent now := by
  apply List.countP_mono_left
  intro failure _ young
  simp only [decide_eq_true_eq] at young ⊢
  omega

theorem recent_noting (ordered : b.Ordered now) :
    (b.noting now).recent now = (b.noting now).failures.length := by
  rw [recent, List.countP_eq_length]
  intro failure member
  rw [ordered.noting_failures, List.mem_filter, not_isStale] at member
  exact member.2

/-! The invariant -/

/-- A closed breaker that can trip at all has not got as many failures in its
window as it takes. -/
def Untripped (b : Breaker) (now : Nat) : Prop :=
  1 ≤ b.config.failMax → b.state = .closed → b.recent now < b.config.failMax

/-- What holds of a breaker at an instant: its history is in order, its last
failure comes after all others and not later than now, there is one unless it
is closed, and if it is closed there is room for another in its window. -/
structure Consistent (b : Breaker) (now : Nat) : Prop extends b.Ordered now where
  untripped : b.Untripped now

theorem consistent_fresh (dependency : String) (config : BreakerConfig)
    (now : Nat) : Consistent { dependency, config } now where
  toOrdered := ordered_fresh dependency config now
  untripped positive _ := positive

theorem Untripped.of_sublist (untripped : b.Untripped now)
    (part : next.failures.Sublist b.failures)
    (config : next.config = b.config)
    (closed : next.state = .closed → b.state = .closed) :
    next.Untripped now := by
  intro positive state
  rw [config] at positive ⊢
  exact Nat.lt_of_le_of_lt (recent_le_of_sublist part config now)
    (untripped positive (closed state))

theorem Untripped.of_cleared (cleared : b.failures = []) :
    b.Untripped now := by
  intro positive _
  rw [recent, cleared]
  exact positive

theorem Untripped.perform (untripped : b.Untripped now) (op : BreakerOp) :
    (b.perform now op).2.breaker.Untripped now := by
  have config := b.perform_config now op
  cases op with
  | acquire =>
      have change := b.perform_change now .acquire
      refine untripped.of_sublist ?_ config ?_
      · change (b.acquire now).2.breaker.failures.Sublist b.failures
        rw [acquire_failures]
        exact b.prune_failures_sublist now
      · intro closed
        generalize (b.perform now .acquire).2.breaker.state = state
          at change closed
        generalize (b.perform now .acquire).2.breaker.lastFailure = last
          at change
        cases change with
        | kept => exact closed
        | trial => cases closed
  | recordSuccess =>
      change b.recordSuccess.breaker.Untripped now
      rw [recordSuccess_breaker]
      split
      · exact .of_cleared rfl
      · exact untripped
  | recordFailure =>
      intro _ closed
      change (b.recordFailure now).breaker.state = .closed at closed
      change (b.recordFailure now).breaker.recent now < _
      rw [config, recordFailure_breaker]
      rw [recordFailure_breaker] at closed
      simp only at closed
      split at closed
      · cases closed
      · split at closed
        · cases closed
        · rename_i few
          exact Nat.lt_of_le_of_lt List.countP_le_length (Nat.not_le.mp few)
  | reset =>
      change b.reset.breaker.Untripped now
      rw [reset_breaker]
      exact .of_cleared rfl
  | forceOpen =>
      change (b.forceOpen now).breaker.Untripped now
      rw [forceOpen_breaker]
      exact fun _ closed => nomatch closed
  | failureCount =>
      change (b.prune now).Untripped now
      exact untripped.of_sublist (b.prune_failures_sublist now) rfl id
  | snapshot =>
      change (b.prune now).Untripped now
      exact untripped.of_sublist (b.prune_failures_sublist now) rfl id

namespace Consistent

theorem mono (consistent : b.Consistent now) (passed : now ≤ later) :
    b.Consistent later where
  toOrdered := consistent.toOrdered.mono passed
  untripped positive closed :=
    Nat.lt_of_le_of_lt (b.recent_le_of_le passed)
      (consistent.untripped positive closed)

theorem perform (consistent : b.Consistent now) (op : BreakerOp) :
    (b.perform now op).2.breaker.Consistent now where
  toOrdered := consistent.toOrdered.perform op
  untripped := consistent.untripped.perform op

theorem run (consistent : b.Consistent now) (passed : now ≤ later)
    (inOrder : Clock.InOrder now ops)
    (before : ∀ event ∈ ops, event.1 ≤ later) :
    (b.run ops).2.Consistent later := by
  induction ops generalizing b now with
  | nil => exact consistent.mono passed
  | cons event rest ih =>
      obtain ⟨since, inOrder⟩ := inOrder
      exact ih ((consistent.mono since).perform event.2)
        (before event List.mem_cons_self) inOrder
        fun other member => before other (List.mem_cons_of_mem _ member)

end Consistent

/-! The last opening -/

theorem run_append (b : Breaker) (first second : List (Nat × BreakerOp)) :
    (b.run (first ++ second)).2 = ((b.run first).2.run second).2 := by
  induction first generalizing b with
  | nil => rfl
  | cons event rest ih => exact ih _

/-- The breaker became open with an operation of the run, which splits into what
came before and after it, and has been open ever since. -/
structure OpenedWith (b : Breaker) (before : List (Nat × BreakerOp))
    (opening : Nat × BreakerOp) (after : List (Nat × BreakerOp)) : Prop where
  other : (b.run before).2.state ≠ .opened
  since : ∀ part, part <+: after →
    (b.run (before ++ opening :: part)).2.state = .opened

theorem exists_openedWith (fresh : b.state ≠ .opened)
    (opened : (b.run ops).2.state = .opened) :
    ∃ before opening after, ops = before ++ opening :: after ∧
      b.OpenedWith before opening after := by
  -- From the back: the last opening of a run is that of all but its last
  -- operation, unless that operation is itself one.
  induction ops using List.reverseRecOn with
  | nil => exact absurd opened fresh
  | append_singleton ops last ih =>
      by_cases earlier : (b.run ops).2.state = .opened
      · obtain ⟨before, opening, after, rfl, openedWith⟩ := ih earlier
        refine ⟨before, opening, after ++ [last], by simp, openedWith.other, ?_⟩
        intro part within
        rcases List.prefix_concat_iff.mp within with rfl | inner
        · simpa using opened
        · exact openedWith.since part inner
      · refine ⟨ops, last, [], rfl, earlier, ?_⟩
        intro part within
        rw [List.prefix_nil.mp within]
        exact opened

/-- Enough failures lay in the window when the breaker opened, or it was
forced. -/
theorem Ordered.cause_of_opens (ordered : b.Ordered now)
    (other : b.state ≠ .opened)
    (opens : (b.perform now op).2.breaker.state = .opened) :
    op = .forceOpen ∨ op = .recordFailure ∧
      b.config.failMax ≤ (b.perform now op).2.breaker.recent now := by
  by_cases forced : op = .forceOpen
  · exact .inl forced
  · obtain ⟨rfl, enough⟩ := fails_of_opens other forced opens
    refine .inr ⟨rfl, ?_⟩
    change _ ≤ (b.recordFailure now).breaker.recent now
    rw [recordFailure_breaker]
    exact Nat.le_trans enough (Nat.le_of_eq (recent_noting ordered).symm)

/-- After any operations in the order of time, a breaker has its history in
order, none of it after its last failure and that not after now; it has a last
failure unless it is closed; and if it is closed, fewer failures than it takes
lie in its window. If it is open, it has been so since a failure with which
enough of them lay in the window, or since it was forced. Pruning takes exactly
the failures out of its history that are as old as the window, wherever they
stand, and doing it again at that instant takes out no more. -/
theorem consistent_at_all_times (dependency : String) (config : BreakerConfig)
    (inOrder : Clock.InOrder 0 ops) (past : ∀ event ∈ ops, event.1 ≤ now) :
    let b := (run { dependency, config } ops).2
    b.Consistent now ∧
    (b.state = .opened → ∃ before instant op after,
      ops = before ++ (instant, op) :: after ∧
      OpenedWith { dependency, config } before (instant, op) after ∧
      (op = .forceOpen ∨ op = .recordFailure ∧ config.failMax ≤
        (run { dependency, config }
          (before ++ [(instant, op)])).2.recent instant)) ∧
    b.prune now =
      { b with failures := b.failures.filter (now - · < config.timeWindow) } ∧
    (b.prune now).prune now = b.prune now := by
  intro b
  have consistent : b.Consistent now :=
    (consistent_fresh dependency config 0).run (Nat.zero_le now) inOrder past
  have same : b.config = config := run_config _ ops
  refine ⟨consistent, ?_, ?_, b.prune_prune now⟩
  · intro opened
    obtain ⟨before, ⟨instant, op⟩, after, rfl, openedWith⟩ :=
      exists_openedWith (b := { dependency, config }) nofun opened
    refine ⟨before, instant, op, after, rfl, openedWith, ?_⟩
    obtain ⟨-, earlier⟩ := Clock.le_of_inOrder_append inOrder
    have ordered := (ordered_fresh dependency config 0).run
      (Nat.zero_le instant) (Clock.inOrder_of_append_left inOrder) earlier
    have opens := openedWith.since [] List.nil_prefix
    rw [run_append] at opens
    rw [run_append]
    have cause := ordered.cause_of_opens openedWith.other opens
    rwa [run_config] at cause
  · have exact := prune_failures_of_sorted b now consistent.sorted
    simp only [not_isStale, same] at exact
    exact congrArg ({ b with failures := · }) exact

/-- A permit that comes back late fails at an open breaker; a success then
closes it and clears its history, but not its last failure. Two failures in
the window open it again, a third of the same instant is added, and half of the
history is stale at the end. -/
theorem consistent_at_all_times_opened_again :
    let config : BreakerConfig := ⟨2, 100, 150⟩
    let ops : List (Nat × BreakerOp) := [
      (0, .recordFailure), (10, .recordFailure), (20, .recordFailure),
      (121, .acquire), (130, .recordSuccess), (140, .recordFailure),
      (200, .recordFailure), (200, .recordFailure), (240, .forceOpen)]
    let b : Breaker := (run { dependency := "a", config } ops).2
    Clock.InOrder 0 ops ∧ b.failures = [140, 200, 200] ∧
      b.lastFailure = some 240 ∧ b.Consistent 300 ∧
      (b.prune 300).failures = [200, 200] ∧
      ∃ before instant op after, ops = before ++ (instant, op) :: after ∧
        OpenedWith { dependency := "a", config } before (instant, op) after ∧
        (op = .forceOpen ∨ op = .recordFailure ∧ 2 ≤
          (run { dependency := "a", config }
            (before ++ [(instant, op)])).2.recent instant) := by
  intro config ops b
  have inOrder : Clock.InOrder 0 ops := by decide
  have history : b.failures = [140, 200, 200] := by decide +kernel
  have last : b.lastFailure = some 240 := by decide +kernel
  have opened : b.state = .opened := by decide +kernel
  have main := consistent_at_all_times "a" config inOrder
    (by decide : ∀ event ∈ ops, event.1 ≤ 300)
  dsimp only [b] at history last opened ⊢
  obtain ⟨consistent, opening, pruned, -⟩ := main
  refine ⟨inOrder, history, last, consistent, ?_, opening opened⟩
  rw [pruned]
  dsimp only
  rw [history]
  rfl

end Tollgate.Breaker
