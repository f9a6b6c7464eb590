import Tollgate.Breaker.Client
import Tollgate.Proofs.Breaker.Operations
import Tollgate.Proofs.Breaker.Window

/-!
The breaker against its specification. A breaker that prunes its history and one
that forgets no failure answer every client alike, whatever permits are still
outstanding, as long as operations come in the order of their instants.
-/

namespace Tollgate

/-- The two breakers side by side. What the first has dropped from its history
no longer counts. -/
structure Mirrors (now : Nat) (b : Breaker) (w : WindowedBreaker) : Prop where
  dependency : b.dependency = w.dependency
  config : b.config = w.config
  state : b.state = w.state
  lastFailure : b.lastFailure = w.lastFailure
  sorted : w.failures.Pairwise (· ≤ ·)
  past : ∀ failure ∈ w.failures, failure ≤ now
  lastPast : ∀ failure, w.lastFailure = some failure → failure ≤ now
  kept : ∃ dropped, w.failures = dropped ++ b.failures ∧
    ∀ failure ∈ dropped, b.isStale now failure

namespace Mirrors

variable {now later : Nat} {b : Breaker} {w : WindowedBreaker}

theorem fresh (now : Nat) (dependency : String) (config : BreakerConfig) :
    Mirrors now { dependency, config } { dependency, config } where
  dependency := rfl
  config := rfl
  state := rfl
  lastFailure := rfl
  sorted := .nil
  past := nofun
  lastPast := nofun
  kept := ⟨[], rfl, nofun⟩

theorem mono (mirrors : Mirrors now b w) (passed : now ≤ later) :
    Mirrors later b w := by
  obtain ⟨dropped, split, stale⟩ := mirrors.kept
  refine { mirrors with past := ?_, lastPast := ?_, kept := ?_ }
  · intro failure member
    exact Nat.le_trans (mirrors.past failure member) passed
  · intro failure last
    exact Nat.le_trans (mirrors.lastPast failure last) passed
  · refine ⟨dropped, split, ?_⟩
    intro failure member
    have old := stale failure member
    simp only [Breaker.isStale, decide_eq_true_eq] at old ⊢
    omega

theorem withState (mirrors : Mirrors now b w) (state : CircuitState) :
    Mirrors now { b with state } { w with state } :=
  { mirrors with state := rfl }

theorem prune (mirrors : Mirrors now b w) : Mirrors now (b.prune now) w := by
  obtain ⟨dropped, split, stale⟩ := mirrors.kept
  refine { mirrors with
    kept := ⟨dropped ++ b.failures.takeWhile (b.isStale now), ?_, ?_⟩ }
  · rw [split, List.append_assoc]
    exact congrArg (dropped ++ ·) List.takeWhile_append_dropWhile.symm
  · intro failure member
    rcases List.mem_append.mp member with before | now
    · exact stale failure before
    · exact List.mem_takeWhile_imp now

theorem length_prune (mirrors : Mirrors now b w) :
    (b.prune now).failures.length = w.count now := by
  obtain ⟨dropped, split, stale⟩ := mirrors.kept
  have sorted := mirrors.sorted
  rw [split] at sorted
  have counted : ∀ failure,
      decide (now - failure < w.config.timeWindow) =
        ! b.isStale now failure := by
    intro failure
    rw [Breaker.isStale, mirrors.config]
    by_cases young : now - failure < w.config.timeWindow
    · simp [young]
    · simp [young, Nat.le_of_not_lt young]
  have noneDropped : dropped.countP (! b.isStale now ·) = 0 := by
    rw [List.countP_eq_zero]
    intro failure member
    simp [stale failure member]
  calc
    (b.prune now).failures.length =
        (b.failures.filter (! b.isStale now ·)).length := by
      rw [b.prune_failures_of_sorted now (List.pairwise_append.mp sorted).2.1]
    _ = b.failures.countP (! b.isStale now ·) :=
      List.countP_eq_length_filter.symm
    _ = (dropped ++ b.failures).countP (! b.isStale now ·) := by
      rw [List.countP_append, noneDropped, Nat.zero_add]
    _ = w.count now := by
      rw [WindowedBreaker.count, split]
      simp only [counted]

theorem retryAfter? (mirrors : Mirrors now b w) :
    b.retryAfter? now = w.refusedFor? now := by
  unfold Breaker.retryAfter? WindowedBreaker.refusedFor?
  rw [mirrors.state, mirrors.lastFailure, mirrors.config]
  cases w.state with
  | closed => rfl
  | halfOpen => rfl
  | opened =>
      cases last : w.lastFailure with
      | none => rfl
      | some failure =>
          have past := mirrors.lastPast failure last
          simp only
          split
          · rw [if_pos (by omega)]
            congr 1
            omega
          · rw [if_neg (by omega)]

/-! Operations -/

theorem acquire (mirrors : Mirrors now b w) :
    (b.acquire now).1 = (w.acquire now).1 ∧
      Mirrors now (b.acquire now).2.breaker (w.acquire now).2 := by
  unfold WindowedBreaker.acquire
  rw [← mirrors.retryAfter?]
  cases refused : b.retryAfter? now with
  | some rest =>
      rw [Breaker.acquire_of_refused refused, mirrors.dependency]
      exact ⟨rfl, mirrors.prune⟩
  | none =>
      rw [Breaker.acquire_of_granted refused, mirrors.state]
      refine ⟨rfl, ?_⟩
      by_cases opened : w.state = .opened
      · simp only [opened, if_true, Breaker.enter_breaker]
        exact mirrors.prune.withState .halfOpen
      · simp only [opened, if_false]
        exact mirrors.prune

theorem recordSuccess (mirrors : Mirrors now b w) :
    Mirrors now b.recordSuccess.breaker w.recordSuccess := by
  rw [Breaker.recordSuccess_breaker, WindowedBreaker.recordSuccess,
    mirrors.state]
  split
  · exact { mirrors with
      state := rfl
      sorted := .nil
      past := nofun
      kept := ⟨[], rfl, nofun⟩ }
  · exact mirrors

theorem append (mirrors : Mirrors now b w) :
    Mirrors now
      { b with failures := b.failures ++ [now], lastFailure := some now }
      { w with failures := w.failures ++ [now], lastFailure := some now } := by
  obtain ⟨dropped, split, stale⟩ := mirrors.kept
  refine { mirrors with
    lastFailure := rfl, sorted := ?_, past := ?_, lastPast := ?_, kept := ?_ }
  · rw [List.pairwise_append]
    refine ⟨mirrors.sorted, List.pairwise_singleton _ _, ?_⟩
    intro failure member present here
    rw [List.mem_singleton.mp here]
    exact mirrors.past failure member
  · intro failure member
    rcases List.mem_append.mp member with before | here
    · exact mirrors.past failure before
    · rw [List.mem_singleton.mp here]
  · intro failure last
    cases last
    exact Nat.le_refl _
  · refine ⟨dropped, ?_, stale⟩
    rw [split, List.append_assoc]

theorem recordFailure (mirrors : Mirrors now b w) :
    Mirrors now (b.recordFailure now).breaker (w.recordFailure now) := by
  have counted : (b.noting now).failures.length = _ :=
    mirrors.append.length_prune
  rw [Breaker.recordFailure_breaker, WindowedBreaker.recordFailure, counted,
    mirrors.state, mirrors.config]
  have after := mirrors.append.prune
  by_cases opened : w.state = .opened
  · simp only [opened, if_true]
    exact after.withState .opened
  · simp only [opened, if_false]
    split
    · exact after.withState .opened
    · exact after.withState .closed

theorem reset (mirrors : Mirrors now b w) :
    Mirrors now b.reset.breaker w.reset := by
  rw [Breaker.reset_breaker, WindowedBreaker.reset]
  exact { mirrors with
    state := rfl
    lastFailure := rfl
    sorted := .nil
    past := nofun
    lastPast := nofun
    kept := ⟨[], rfl, nofun⟩ }

theorem forceOpen (mirrors : Mirrors now b w) :
    Mirrors now (b.forceOpen now).breaker (w.forceOpen now) := by
  rw [Breaker.forceOpen_breaker, WindowedBreaker.forceOpen]
  refine { mirrors with state := rfl, lastFailure := rfl, lastPast := ?_ }
  intro failure last
  cases last
  exact Nat.le_refl _

theorem snapshot (mirrors : Mirrors now b w) :
    (b.snapshot now).1 = w.snapshot now := by
  simp only [Breaker.snapshot, WindowedBreaker.snapshot,
    Breaker.prune_dependency, Breaker.prune_state, Breaker.prune_config,
    Breaker.retryAfter?_prune, mirrors.length_prune, mirrors.retryAfter?,
    mirrors.dependency, mirrors.state, mirrors.config]

/-- Whatever is asked, both answer alike and go on side by side. -/
theorem perform (mirrors : Mirrors now b w) (op : BreakerOp) :
    (b.perform now op).1 = (w.perform now op).1 ∧
      Mirrors now (b.perform now op).2.breaker (w.perform now op).2 := by
  cases op with
  | acquire =>
      obtain ⟨answers, after⟩ := mirrors.acquire
      exact ⟨congrArg BreakerReply.ofRefusal answers, after⟩
  | recordSuccess => exact ⟨rfl, mirrors.recordSuccess⟩
  | recordFailure => exact ⟨rfl, mirrors.recordFailure⟩
  | reset => exact ⟨rfl, mirrors.reset⟩
  | forceOpen => exact ⟨rfl, mirrors.forceOpen⟩
  | failureCount =>
      exact ⟨congrArg BreakerReply.count mirrors.length_prune, mirrors.prune⟩
  | snapshot =>
      exact ⟨congrArg BreakerReply.snapshot mirrors.snapshot, mirrors.prune⟩

end Mirrors

namespace Clients

variable {β γ : Type}

/-- The same permits are outstanding with two breakers, which are related. -/
structure Related (relation : β → γ → Prop) (c : Clients β) (d : Clients γ) :
    Prop where
  breaker : relation c.breaker d.breaker
  granted : c.granted = d.granted
  outstanding : c.outstanding = d.outstanding

/-- Breakers that answer each operation alike and stay related also answer
clients alike, for permits are given and used up without regard to the breaker
that they come from. -/
theorem step_related {kind : BreakerKind β} {other : BreakerKind γ}
    {relation : β → γ → Prop} {now : Nat}
    (performs : ∀ b d op, relation b d →
      (kind.perform b now op).1 = (other.perform d now op).1 ∧
        relation (kind.perform b now op).2 (other.perform d now op).2)
    (states : ∀ b d, relation b d → kind.state b = other.state d)
    {c : Clients β} {d : Clients γ} (related : Related relation c d)
    (op : ClientOp) :
    (c.step kind now op).1 = (d.step other now op).1 ∧
      Related relation (c.step kind now op).2 (d.step other now op).2 := by
  obtain ⟨breakers, granted, outstanding⟩ := related
  cases op with
  | ask op =>
      obtain ⟨answers, after⟩ := performs _ _ op breakers
      simp only [step, ask]
      generalize kind.perform c.breaker now op = left at answers after ⊢
      generalize other.perform d.breaker now op = right at answers after ⊢
      obtain ⟨reply, b⟩ := left
      obtain ⟨_, b'⟩ := right
      cases answers
      cases reply with
      | granted =>
          exact ⟨congrArg ClientReply.permit granted, after,
            congrArg (· + 1) granted, by simp only [granted, outstanding]⟩
      | done => exact ⟨rfl, after, granted, outstanding⟩
      | refused circuit => exact ⟨rfl, after, granted, outstanding⟩
      | count n => exact ⟨rfl, after, granted, outstanding⟩
      | snapshot snapshot => exact ⟨rfl, after, granted, outstanding⟩
  | resolve permit use =>
      simp only [step, resolve, outstanding]
      split
      · cases use.op? with
        | none => exact ⟨rfl, breakers, granted, rfl⟩
        | some op =>
            exact ⟨rfl, (performs _ _ op breakers).2, granted, rfl⟩
      · exact ⟨rfl, breakers, granted, outstanding⟩
  | readState =>
      exact ⟨congrArg ClientReply.state (states _ _ breakers),
        breakers, granted, outstanding⟩

end Clients

/-- Clients of the two breakers get the same answers, and leave them side by
side. The induction is on the operations to come, with the instant up to which
the breakers have been compared. -/
theorem Mirrors.run {now : Nat} {c : Clients Breaker}
    {d : Clients WindowedBreaker} (related : Clients.Related (Mirrors now) c d)
    {ops : List (Nat × ClientOp)} (inOrder : Clock.InOrder now ops) :
    (c.run Breaker.kind ops).1 = (d.run WindowedBreaker.kind ops).1 ∧
      ∃ last, Clients.Related (Mirrors last) (c.run Breaker.kind ops).2
        (d.run WindowedBreaker.kind ops).2 := by
  induction ops generalizing now c d with
  | nil => exact ⟨rfl, now, related⟩
  | cons event rest ih =>
      obtain ⟨instant, op⟩ := event
      obtain ⟨passed, restInOrder⟩ := inOrder
      have here : Clients.Related (Mirrors instant) c d :=
        { related with breaker := related.breaker.mono passed }
      have step : (c.step Breaker.kind instant op).1 =
            (d.step WindowedBreaker.kind instant op).1 ∧
          Clients.Related (Mirrors instant) (c.step Breaker.kind instant op).2
            (d.step WindowedBreaker.kind instant op).2 :=
        Clients.step_related (fun _ _ op mirrors => mirrors.perform op)
          (fun _ _ mirrors => mirrors.state) here op
      obtain ⟨answers, after⟩ := ih step.2 restInOrder
      rw [Clients.run_cons, Clients.run_cons]
      exact ⟨congrArg₂ List.cons step.1 answers, after⟩

/-- A new breaker answers its clients as its specification does, and ends in the
same state, with the same permits outstanding. -/
theorem clients_answered_as_specified (dependency : String)
    (config : BreakerConfig) (ops : List (Nat × ClientOp))
    (inOrder : Clock.InOrder 0 ops) :
    let pruned := Clients.run Breaker.kind ⟨{ dependency, config }, 0, []⟩ ops
    let whole :=
      Clients.run WindowedBreaker.kind ⟨{ dependency, config }, 0, []⟩ ops
    pruned.1 = whole.1 ∧
      pruned.2.breaker.state = whole.2.breaker.state ∧
      pruned.2.breaker.lastFailure = whole.2.breaker.lastFailure ∧
      pruned.2.outstanding = whole.2.outstanding := by
  have start : Clients.Related (Mirrors 0)
      ⟨{ dependency, config }, 0, []⟩ ⟨{ dependency, config }, 0, []⟩ :=
    ⟨Mirrors.fresh 0 dependency config, rfl, rfl⟩
  obtain ⟨answers, last, related⟩ := Mirrors.run start inOrder
  exact ⟨answers, related.breaker.state, related.breaker.lastFailure,
    related.outstanding⟩

/-- Two failures trip the breaker, one of them of a permit; a permit from before
comes back as a success while the trial runs, a late failure follows it, another
permit is dropped, and the history is read at the very edge of the window. -/
theorem clients_answered_as_specified_late_permits :
    let ops : List (Nat × ClientOp) := [
      (0, .ask .acquire), (0, .ask .acquire), (0, .ask .acquire),
      (5, .resolve 1 .failure), (5, .ask .failureCount),
      (5, .ask .recordFailure), (6, .readState), (105, .ask .acquire),
      (106, .ask .acquire), (106, .readState), (106, .resolve 0 .success),
      (107, .readState), (107, .ask .failureCount), (107, .resolve 3 .failure),
      (108, .resolve 2 .dropped), (108, .resolve 2 .success),
      (1106, .ask .failureCount), (1107, .ask .snapshot)]
    let pruned := Clients.run Breaker.kind
      ⟨{ dependency := "a", config := ⟨2, 100, 1000⟩ }, 0, []⟩ ops
    let whole := Clients.run WindowedBreaker.kind
      ⟨{ dependency := "a", config := ⟨2, 100, 1000⟩ }, 0, []⟩ ops
    Clock.InOrder 0 ops ∧
      pruned.1 = [
        .permit 0, .permit 1, .permit 2, .done, .breaker (.count 1),
        .breaker .done, .state .opened, .breaker (.refused ⟨"a", 0⟩),
        .permit 3, .state .halfOpen, .done, .state .closed,
        .breaker (.count 0), .done, .done, .notOutstanding,
        .breaker (.count 1),
        .breaker (.snapshot ⟨"a", .closed, 0, 2, 0, 0, none⟩)] ∧
      pruned.1 = whole.1 ∧
      pruned.2.breaker.failures = [] ∧ whole.2.breaker.failures = [107] ∧
      pruned.2.breaker.lastFailure = some 107 ∧
      pruned.2.breaker.state = whole.2.breaker.state ∧
      pruned.2.outstanding = [] := by
  intro ops pruned whole
  have inOrder : Clock.InOrder 0 ops := by decide
  obtain ⟨answers, states, -, -⟩ :=
    clients_answered_as_specified "a" ⟨2, 100, 1000⟩ ops inOrder
  exact ⟨inOrder, by decide +kernel, answers, by decide +kernel,
    by decide +kernel, by decide +kernel, states, by decide +kernel⟩

end Tollgate
