import Tollgate.Breaker.Run
import Tollgate.Proofs.Breaker.Refusal
import Tollgate.Proofs.Breaker.Window

/-!
Recovery. The last failure that a breaker knows of is not older than any in its
history. A reset timeout that is not shorter than the time window therefore
outlives the history: a trial starts from none, whatever happened before, and
the breaker opens again only on failures that came after the trial began. As
in all runs in order (`Clock.InOrder`), an operation reads the clock at the
instant at which it gets hold of the breaker.
-/

namespace Tollgate

def failuresIn (ops : List (Nat × BreakerOp)) : List Nat :=
  (ops.filter (·.2 = .recordFailure)).map Prod.fst

theorem failuresIn_append (first second : List (Nat × BreakerOp)) :
    failuresIn (first ++ second) = failuresIn first ++ failuresIn second := by
  rw [failuresIn, List.filter_append, List.map_append]
  rfl

namespace Breaker

variable {b next : Breaker} {now later : Nat} {op : BreakerOp}
  {ops : List (Nat × BreakerOp)}

/-! What a history is made of -/

@[simp]
theorem acquire_failures (b : Breaker) (now : Nat) :
    (b.acquire now).2.breaker.failures = (b.prune now).failures := by
  cases wait : b.retryAfter? now with
  | some rest => rw [acquire_of_refused wait]
  | none =>
      rw [acquire_of_granted wait]
      split
      · rw [enter_breaker]
      · rfl

theorem prune_failures_sublist (b : Breaker) (now : Nat) :
    (b.prune now).failures.Sublist b.failures :=
  List.dropWhile_sublist _

theorem perform_failures_sublist (b : Breaker) (now : Nat) (op : BreakerOp) :
    (b.perform now op).2.breaker.failures.Sublist
      (b.failures ++ failuresIn [(now, op)]) := by
  cases op with
  | recordFailure =>
      change (b.recordFailure now).breaker.failures.Sublist
        (b.failures ++ [now])
      rw [recordFailure_breaker]
      exact prune_failures_sublist _ now
  | acquire =>
      change (b.acquire now).2.breaker.failures.Sublist (b.failures ++ [])
      rw [acquire_failures, List.append_nil]
      exact b.prune_failures_sublist now
  | recordSuccess =>
      change b.recordSuccess.breaker.failures.Sublist (b.failures ++ [])
      rw [recordSuccess_breaker, List.append_nil]
      split
      · exact List.nil_sublist _
      · exact .refl _
  | reset =>
      change b.reset.breaker.failures.Sublist (b.failures ++ [])
      rw [reset_breaker]
      exact List.nil_sublist _
  | forceOpen =>
      change (b.forceOpen now).breaker.failures.Sublist (b.failures ++ [])
      rw [forceOpen_breaker]
      exact List.sublist_append_left _ _
  | failureCount =>
      change (b.prune now).failures.Sublist (b.failures ++ [])
      rw [List.append_nil]
      exact b.prune_failures_sublist now
  | snapshot =>
      change (b.prune now).failures.Sublist (b.failures ++ [])
      rw [List.append_nil]
      exact b.prune_failures_sublist now

theorem run_failures_sublist (b : Breaker) (ops : List (Nat × BreakerOp)) :
    (b.run ops).2.failures.Sublist (b.failures ++ failuresIn ops) := by
  induction ops generalizing b with
  | nil => exact List.sublist_append_left _ _
  | cons event rest ih =>
      have here := b.perform_failures_sublist event.1 event.2
      have there := (ih (b.perform event.1 event.2).2.breaker).trans
        (here.append_right (failuresIn rest))
      rw [List.append_assoc, ← failuresIn_append] at there
      exact there

/-! The order of a history -/

/-- The failures of a history are in order, and the last that the breaker knows
of comes after all of them. -/
structure Ordered (b : Breaker) (now : Nat) : Prop extends b.Dated now where
  sorted : b.failures.Pairwise (· ≤ ·)
  bounded : ∀ failure ∈ b.failures,
    ∃ last, b.lastFailure = some last ∧ failure ≤ last

theorem ordered_fresh (dependency : String) (config : BreakerConfig)
    (now : Nat) : Ordered { dependency, config } now where
  toDated := dated_fresh dependency config now
  sorted := .nil
  bounded := nofun

namespace Ordered

theorem mono (ordered : b.Ordered now) (passed : now ≤ later) :
    b.Ordered later where
  toDated := ordered.toDated.mono passed
  sorted := ordered.sorted
  bounded := ordered.bounded

theorem le (ordered : b.Ordered now) {failure : Nat}
    (member : failure ∈ b.failures) : failure ≤ now := by
  obtain ⟨last, found, before⟩ := ordered.bounded failure member
  exact Nat.le_trans before (ordered.past last found)

theorem sorted_noted (ordered : b.Ordered now) :
    (b.failures ++ [now]).Pairwise (· ≤ ·) := by
  rw [List.pairwise_append]
  refine ⟨ordered.sorted, List.pairwise_singleton _ _, ?_⟩
  intro failure member present here
  rw [List.mem_singleton.mp here]
  exact ordered.le member

theorem perform (ordered : b.Ordered now) (op : BreakerOp) :
    (b.perform now op).2.breaker.Ordered now := by
  have part := b.perform_failures_sublist now op
  have within : (b.failures ++ failuresIn [(now, op)]).Sublist
      (b.failures ++ [now]) :=
    .append_left (.map Prod.fst List.filter_sublist) b.failures
  have past : ∀ failure ∈ (b.perform now op).2.breaker.failures,
      failure ≤ now := by
    intro failure member
    rcases List.mem_append.mp (within.subset (part.subset member)) with
      before | here
    · exact ordered.le before
    · exact Nat.le_of_eq (List.mem_singleton.mp here)
  refine ⟨ordered.toDated.perform op,
    ordered.sorted_noted.sublist (part.trans within), ?_⟩
  intro failure member
  have notAhead := past failure member
  have old := part.subset member
  have change := b.perform_change now op
  generalize (b.perform now op).2.breaker.state = state at change
  generalize noted : (b.perform now op).2.breaker.lastFailure = last at change
  generalize hears : some op = heard at change
  cases change with
  | kept heard unfailed unreset unforced waits =>
      subst hears
      rw [failuresIn, List.filter_cons_of_neg
        (by simpa using fun same => unfailed (congrArg some same))] at old
      exact ordered.bounded failure (by simpa using old)
  | trial opened granted =>
      cases hears
      exact ordered.bounded failure (by simpa [failuresIn] using old)
  | recovered halfOpen =>
      cases hears
      exact ordered.bounded failure (by simpa [failuresIn] using old)
  | failed state stays ends => exact ⟨now, rfl, notAhead⟩
  | reset =>
      cases hears
      change failure ∈ b.reset.breaker.failures at member
      rw [reset_breaker] at member
      cases member
  | forced => exact ⟨now, rfl, notAhead⟩

theorem run (ordered : b.Ordered now) (passed : now ≤ later)
    (inOrder : Clock.InOrder now ops)
    (before : ∀ event ∈ ops, event.1 ≤ later) :
    (b.run ops).2.Ordered later := by
  induction ops generalizing b now with
  | nil => exact ordered.mono passed
  | cons event rest ih =>
      obtain ⟨since, inOrder⟩ := inOrder
      exact ih ((ordered.mono since).perform event.2)
        (before event List.mem_cons_self) inOrder
        fun other member => before other (List.mem_cons_of_mem _ member)

theorem prune_failures_of_past (ordered : b.Ordered now)
    (aged : ∀ last, b.lastFailure = some last →
      last + b.config.timeWindow ≤ now) : (b.prune now).failures = [] := by
  rw [prune_failures_of_sorted b now ordered.sorted, List.filter_eq_nil_iff]
  intro failure member
  obtain ⟨last, found, before⟩ := ordered.bounded failure member
  have old := aged last found
  simp only [isStale, Bool.not_eq_true', decide_eq_false_iff_not, not_not]
  omega

theorem noting_failures (ordered : b.Ordered now) :
    (b.noting now).failures =
      (b.failures ++ [now]).filter (! b.isStale now ·) :=
  prune_failures_of_sorted _ now ordered.sorted_noted

end Ordered

/-! Opening, and opening again -/

theorem asks_of_begins_trial (opened : b.state = .opened)
    (halfOpen : (b.perform now op).2.breaker.state = .halfOpen) :
    op = .acquire ∧ b.grants now := by
  have change := b.perform_change now op
  generalize (b.perform now op).2.breaker.state = state at change halfOpen
  generalize (b.perform now op).2.breaker.lastFailure = last at change
  generalize hears : some op = heard at change
  cases change with
  | kept => cases opened.symm.trans halfOpen
  | trial opened granted =>
      cases hears
      exact ⟨rfl, granted⟩
  | recovered => cases halfOpen
  | failed state stays ends => exact absurd halfOpen ends
  | reset => cases halfOpen
  | forced => cases halfOpen

/-- A trial begins with no history. -/
theorem Ordered.begins_trial (ordered : b.Ordered now)
    (outlives : b.config.timeWindow ≤ b.config.resetTimeout)
    (opened : b.state = .opened)
    (halfOpen : (b.perform now op).2.breaker.state = .halfOpen) :
    (b.perform now op).2.breaker.failures = [] := by
  obtain ⟨rfl, granted⟩ := asks_of_begins_trial opened halfOpen
  change (b.acquire now).2.breaker.failures = []
  rw [acquire_failures]
  apply ordered.prune_failures_of_past
  intro last found
  have passed := (OpenSince.grants_iff ⟨opened, found⟩ now).mp granted
  omega

theorem fails_of_opens (other : b.state ≠ .opened) (unforced : op ≠ .forceOpen)
    (opens : (b.perform now op).2.breaker.state = .opened) :
    op = .recordFailure ∧
      b.config.failMax ≤ (b.noting now).failures.length := by
  have failed : op = .recordFailure := by
    have change := b.perform_change now op
    generalize (b.perform now op).2.breaker.state = state at change opens
    generalize (b.perform now op).2.breaker.lastFailure = last at change
    generalize hears : some op = heard at change
    cases change with
    | kept => exact absurd opens other
    | trial => cases opens
    | recovered => cases opens
    | failed => exact Option.some.inj hears
    | reset => cases opens
    | forced => exact absurd (Option.some.inj hears) unforced
  subst failed
  refine ⟨rfl, ?_⟩
  change (b.recordFailure now).breaker.state = .opened at opens
  rw [recordFailure_breaker] at opens
  simp only [other, if_false] at opens
  split at opens
  · assumption
  · cases opens

/-- Unless it is forced, a breaker without a history opens only when enough
failures have come since that lie within one time window. -/
theorem Ordered.opens_on_fresh (ordered : b.Ordered now)
    (none : b.failures = []) {earlier : List (Nat × BreakerOp)}
    (inOrder : Clock.InOrder now (earlier ++ [(later, op)]))
    (unforced : op ≠ .forceOpen) (other : (b.run earlier).2.state ≠ .opened)
    (opens : ((b.run earlier).2.perform later op).2.breaker.state = .opened) :
    b.config.failMax ≤
      (failuresIn (earlier ++ [(later, op)])).countP
        (later - · < b.config.timeWindow) := by
  obtain ⟨passed, before⟩ := Clock.le_of_inOrder_append inOrder
  have during :=
    ordered.run passed (Clock.inOrder_of_append_left inOrder) before
  obtain ⟨rfl, enough⟩ := fails_of_opens other unforced opens
  have config : (b.run earlier).2.config = b.config := run_config b earlier
  have part : (b.run earlier).2.failures.Sublist (failuresIn earlier) := by
    have part := b.run_failures_sublist earlier
    rwa [none, List.nil_append] at part
  rw [during.noting_failures, ← List.countP_eq_length_filter, config] at enough
  refine Nat.le_trans enough ?_
  rw [failuresIn_append]
  refine Nat.le_trans ((part.append_right [later]).countP_le) ?_
  apply List.countP_mono_left
  intro failure _ fresh
  simpa [isStale, config] using fresh

/-- Take a breaker whose reset timeout is not shorter than its time window, and
any run of it: failures in any number, also while it is open, forced openings,
resets, looks, outcomes of however many calls at once. Whenever it goes from
open to half-open, its history is empty. And whenever it opens later on, unless
it is forced to, as many failures as it takes were recorded since then, all of
them younger than the time window. -/
theorem reopens_only_on_fresh_failures (dependency : String)
    {config : BreakerConfig}
    (outlives : config.timeWindow ≤ config.resetTimeout)
    {before later : List (Nat × BreakerOp)} {now : Nat} {op : BreakerOp}
    (inOrder : Clock.InOrder 0 (before ++ (now, op) :: later))
    (opened : (run { dependency, config } before).2.state = .opened)
    (halfOpen : ((run { dependency, config } before).2.perform
      now op).2.breaker.state = .halfOpen) :
    let trial :=
      ((run { dependency, config } before).2.perform now op).2.breaker
    trial.failures = [] ∧
      ∀ earlier instant last rest,
        later = earlier ++ (instant, last) :: rest → last ≠ .forceOpen →
        (trial.run earlier).2.state ≠ .opened →
        ((trial.run earlier).2.perform instant last).2.breaker.state =
          .opened →
        config.failMax ≤
          (failuresIn (earlier ++ [(instant, last)])).countP
            (instant - · < config.timeWindow) := by
  intro trial
  obtain ⟨passed, past⟩ := Clock.le_of_inOrder_append inOrder
  have ordered : (run { dependency, config } before).2.Ordered now :=
    (ordered_fresh dependency config 0).run passed
      (Clock.inOrder_of_append_left inOrder) past
  have same : (run { dependency, config } before).2.config = config :=
    run_config _ before
  have none : trial.failures = [] :=
    ordered.begins_trial (same.symm ▸ outlives) opened halfOpen
  refine ⟨none, ?_⟩
  intro earlier instant last rest split unforced other opens
  have kept : trial.config = config := (perform_config _ now op).trans same
  have since := Clock.inOrder_of_append inOrder
  rw [split, List.append_cons] at since
  have fresh := (ordered.perform op).opens_on_fresh none
    (Clock.inOrder_of_append_left since) unforced other opens
  rwa [kept] at fresh

/-- Two failures trip the breaker, another comes while it is open, and it is
forced open again. Of two trials one fails and the other succeeds; when the next
failures come, the one of the trial no longer counts. -/
theorem reopens_only_on_fresh_failures_forced :
    let config : BreakerConfig := ⟨2, 100, 100⟩
    let before : List (Nat × BreakerOp) := [
      (0, .recordFailure), (5, .recordFailure), (50, .recordFailure),
      (60, .forceOpen)]
    let earlier : List (Nat × BreakerOp) := [
      (162, .acquire), (165, .recordFailure), (170, .recordSuccess),
      (270, .recordFailure)]
    let tripped : Breaker := (run { dependency := "a", config } before).2
    let trial := (tripped.perform 161 .acquire).2.breaker
    Clock.InOrder 0
        (before ++ (161, .acquire) :: (earlier ++ [(280, .recordFailure)])) ∧
      tripped.failures = [0, 5, 50] ∧ tripped.state = .opened ∧
      trial.state = .halfOpen ∧ trial.failures = [] ∧
      ((trial.run earlier).2.perform 280 .recordFailure).2.breaker.state =
        .opened ∧
      2 ≤ (failuresIn (earlier ++ [(280, .recordFailure)])).countP
        (280 - · < 100) := by
  intro config before earlier tripped trial
  have inOrder : Clock.InOrder 0
      (before ++ (161, .acquire) :: (earlier ++ [(280, .recordFailure)])) := by
    decide
  obtain ⟨none, fresh⟩ := reopens_only_on_fresh_failures "a"
    (by decide : config.timeWindow ≤ config.resetTimeout) inOrder
    (by decide +kernel) (by decide +kernel)
  have enough := fresh earlier 280 .recordFailure [] rfl nofun
    (by decide +kernel) (by decide +kernel)
  dsimp only [trial, tripped]
  exact ⟨inOrder, by decide +kernel, by decide +kernel, by decide +kernel,
    none, by decide +kernel, enough⟩

end Breaker

end Tollgate
