import Tollgate.Proofs.Breaker.Opened

/-!
Trials. A half-open breaker closes at the success of any call, also of one that
was let in before it opened. Such a call has been under way for longer than the
reset timeout, as no trial is let in sooner: successes that come back in time
are those of trials.
-/

namespace Tollgate

namespace Breaker

/-- Not half-open at some time from an instant on. If it is half-open now, its
reset timeout has passed since that instant. -/
inductive Departed (since now : Nat) (b : Breaker) : Prop where
  | closed (state : b.state = .closed)
  | opened (failure : Nat) (standing : b.OpenSince failure)
      (later : since ≤ failure)
  | halfOpen (state : b.state = .halfOpen)
      (late : since + b.config.resetTimeout < now)

variable {b next : Breaker} {heard : Option BreakerOp} {since start now : Nat}

theorem Departed.mono (departed : b.Departed since start) (past : start ≤ now) :
    b.Departed since now := by
  cases departed with
  | closed state => exact .closed state
  | opened failure standing later => exact .opened failure standing later
  | halfOpen state late => exact .halfOpen state (by omega)

theorem Change.kept_or_trial_or_departed
    (change : b.Change now heard next.state next.lastFailure)
    (begun : since ≤ now) :
    (next.state = b.state ∧ next.lastFailure = b.lastFailure) ∨
      (b.state = .opened ∧ b.grants now ∧ next.state = .halfOpen) ∨
      next.Departed since now := by
  generalize entered : next.state = state at change
  generalize noted : next.lastFailure = last at change
  cases change with
  | kept heard unfailed unreset unforced waits => exact .inl ⟨rfl, rfl⟩
  | trial opened granted => exact .inr (.inl ⟨opened, granted, rfl⟩)
  | recovered halfOpen => exact .inr (.inr (.closed entered))
  | failed state stays ends =>
      right
      right
      cases state with
      | closed => exact .closed entered
      | opened => exact .opened now ⟨entered, noted⟩ begun
      | halfOpen => exact absurd rfl ends
  | reset => exact .inr (.inr (.closed entered))
  | forced => exact .inr (.inr (.opened now ⟨entered, noted⟩ begun))

theorem Departed.change (departed : b.Departed since start)
    (change : b.Change now heard next.state next.lastFailure)
    (config : next.config = b.config) (begun : since ≤ start)
    (past : start ≤ now) : next.Departed since now := by
  rcases change.kept_or_trial_or_departed (Nat.le_trans begun past) with
    ⟨same, noted⟩ | ⟨opened, granted, entered⟩ | departed
  · cases departed with
    | closed state => exact .closed (same.trans state)
    | opened failure standing later =>
        exact .opened failure
          ⟨same.trans standing.opened, noted.trans standing.last⟩ later
    | halfOpen state late =>
        refine .halfOpen (same.trans state) ?_
        rw [config]
        omega
  · cases departed with
    | closed state =>
        rw [state] at opened
        cases opened
    | opened failure standing later =>
        have passed := (standing.grants_iff now).mp granted
        refine .halfOpen entered ?_
        rw [config]
        omega
    | halfOpen state late =>
        rw [state] at opened
        cases opened
  · exact departed

theorem Change.stays_or_departed
    (change : b.Change now heard next.state next.lastFailure)
    (halfOpen : b.state = .halfOpen) (begun : since ≤ now) :
    next.state = .halfOpen ∨ next.Departed since now := by
  rcases change.kept_or_trial_or_departed begun with
    ⟨same, -⟩ | ⟨opened, -, -⟩ | departed
  · exact .inl (same.trans halfOpen)
  · rw [halfOpen] at opened
    cases opened
  · exact .inr departed

end Breaker

namespace Clients

def new (dependency : String) (config : BreakerConfig) : Clients Breaker where
  breaker := { dependency, config }

/-- In a run, the attempt that follows `before` got the permit. -/
structure GivenAt (c : Clients Breaker) (ops : List (Nat × ClientOp))
    (permit instant : Nat) (before between : List (Nat × ClientOp)) :
    Prop where
  split : ops = before ++ (instant, .ask .acquire) :: between
  answer : ((c.run Breaker.kind before).2.step Breaker.kind instant
    (.ask .acquire)).1 = .permit permit

/-- The breaker has been half-open ever since the permit was given. -/
def IsTrial (c : Clients Breaker) (ops : List (Nat × ClientOp))
    (permit : Nat) : Prop :=
  ∃ instant before between, c.GivenAt ops permit instant before between ∧
    ∀ earlier, earlier <+: between →
      (c.run Breaker.kind (before ++ (instant, .ask .acquire) :: earlier)
        ).2.breaker.state = .halfOpen

/-- Successes that come back within a limit close a half-open breaker only if
they are those of trials, and otherwise leave it as it is. -/
def RecoversByTrials (config : BreakerConfig) (limit : Nat) : Prop :=
  ∀ dependency ops now permit instant before between,
    let start := new dependency config
    let c := (start.run Breaker.kind ops).2
    let after := (c.step Breaker.kind now (.resolve permit .success)).2
    Clock.InOrder 0 (ops ++ [(now, .resolve permit .success)]) →
    start.GivenAt ops permit instant before between → now ≤ instant + limit →
    permit ∈ c.outstanding → c.breaker.state = .halfOpen →
      (after.breaker.state = .closed → start.IsTrial ops permit) ∧
      (¬ start.IsTrial ops permit → after.breaker = c.breaker)

variable {c : Clients Breaker} {ops before between : List (Nat × ClientOp)}
  {op : ClientOp} {since start now instant permit : Nat}

/-! Permits and their attempts -/

theorem GivenAt.gives (given : c.GivenAt ops permit instant before between) :
    (c.run Breaker.kind before).2.Gives instant (.ask .acquire) ∧
      permit = (c.run Breaker.kind before).2.granted := by
  rcases (c.run Breaker.kind before).2.gives_or_givesNone instant
    (.ask .acquire) with gives | none
  · refine ⟨gives, ?_⟩
    have answers := given.answer
    rw [gives.answer] at answers
    cases answers
    rfl
  · exact absurd given.answer (none.answer permit)

theorem exists_givenAt (held : permit ∈ (c.run Breaker.kind ops).2.outstanding)
    (fresh : permit ∉ c.outstanding) :
    ∃ instant before between, c.GivenAt ops permit instant before between := by
  induction ops generalizing c with
  | nil => exact absurd held fresh
  | cons event rest ih =>
      obtain ⟨now, op⟩ := event
      by_cases here :
          permit ∈ (c.step Breaker.kind now op).2.outstanding
      · rcases c.gives_or_givesNone now op with given | none
        · obtain rfl := given.asked
          rw [given.outstanding] at here
          obtain rfl : permit = c.granted := by
            simpa [fresh] using here
          exact ⟨now, [], rest, rfl, given.answer⟩
        · exact absurd (none.outstanding here) fresh
      · obtain ⟨instant, before, between, given⟩ := ih held here
        refine ⟨instant, (now, op) :: before, between, ?_, given.answer⟩
        rw [given.split]
        rfl

/-! From the attempt on -/

/-- The attempt is the first of a half-open phase, or one more of it, or finds
the breaker closed and leaves it closed. -/
theorem Gives.enters (gives : c.Gives now op) :
    (c.breaker.state = .closed ∧
        (c.step Breaker.kind now op).2.breaker.state = .closed) ∨
      (c.breaker.state ≠ .closed ∧
        (c.step Breaker.kind now op).2.breaker.state = .halfOpen) := by
  obtain rfl := gives.asked
  have granted := gives.granted
  have change := c.step_change now (.ask .acquire)
  generalize entered : (c.step Breaker.kind now
    (.ask .acquire)).2.breaker.state = state at change ⊢
  generalize (c.step Breaker.kind now (.ask .acquire)).2.breaker.lastFailure =
    last at change
  cases change with
  | kept heard unfailed unreset unforced waits =>
      cases found : c.breaker.state with
      | closed => exact .inl ⟨rfl, rfl⟩
      | opened =>
          rw [waits rfl found] at granted
          cases granted
      | halfOpen => exact .inr ⟨nofun, rfl⟩
  | trial opened granted =>
      rw [opened]
      exact .inr ⟨nofun, rfl⟩

theorem departed_run (departed : c.breaker.Departed since start)
    (begun : since ≤ start)
    (inOrder : Clock.InOrder start (ops ++ [(now, op)])) :
    (c.run Breaker.kind ops).2.breaker.Departed since now := by
  induction ops generalizing c start with
  | nil => exact departed.mono inOrder.1
  | cons event rest ih =>
      obtain ⟨past, inOrder⟩ := inOrder
      have next := departed.change (c.step_change event.1 event.2)
        (step_config c event.1 event.2) begun past
      exact ih next (Nat.le_trans begun past) inOrder

theorem halfOpen_or_departed_run (halfOpen : c.breaker.state = .halfOpen)
    (begun : since ≤ start)
    (inOrder : Clock.InOrder start (ops ++ [(now, op)])) :
    (∀ earlier, earlier <+: ops →
      (c.run Breaker.kind earlier).2.breaker.state = .halfOpen) ∨
    (c.run Breaker.kind ops).2.breaker.Departed since now := by
  -- What has departed is left to `departed_run`; the phase goes on otherwise.
  induction ops generalizing c start with
  | nil =>
      left
      intro earlier isPrefix
      rw [List.prefix_nil.mp isPrefix]
      exact halfOpen
  | cons event rest ih =>
      obtain ⟨past, inOrder⟩ := inOrder
      have since := Nat.le_trans begun past
      rcases (c.step_change event.1 event.2).stays_or_departed halfOpen since
        with still | departed
      · rcases ih still since inOrder with all | departed
        · left
          intro earlier isPrefix
          cases earlier with
          | nil => exact halfOpen
          | cons first others =>
              obtain ⟨rfl, restPrefix⟩ := List.cons_prefix_cons.mp isPrefix
              exact all others restPrefix
        · exact .inr departed
      · have late := departed_run departed since inOrder
        exact .inr late

/-- While the breaker is half-open, a permit that is out is that of a trial or
older than the reset timeout. -/
theorem GivenAt.isTrial_or_late
    (given : c.GivenAt ops permit instant before between)
    (inOrder : Clock.InOrder start (ops ++ [(now, op)]))
    (halfOpen : (c.run Breaker.kind ops).2.breaker.state = .halfOpen) :
    c.IsTrial ops permit ∨ instant + c.breaker.config.resetTimeout < now := by
  have inOrder : Clock.InOrder instant (between ++ [(now, op)]) := by
    rw [given.split, List.append_assoc] at inOrder
    exact Clock.inOrder_of_append inOrder
  have whole (earlier : List (Nat × ClientOp)) :
      (c.run Breaker.kind (before ++ (instant, .ask .acquire) :: earlier)).2 =
        (((c.run Breaker.kind before).2.step Breaker.kind instant
          (.ask .acquire)).2.run Breaker.kind earlier).2 :=
    run_append _ _ _ _
  have late
      (departed : (c.run Breaker.kind ops).2.breaker.Departed instant now) :
      instant + c.breaker.config.resetTimeout < now := by
    cases departed with
    | closed state =>
        rw [halfOpen] at state
        cases state
    | opened failure standing later =>
        have state := standing.opened
        rw [halfOpen] at state
        cases state
    | halfOpen state late => rwa [run_config] at late
  rcases given.gives.1.enters with ⟨-, closed⟩ | ⟨-, entered⟩
  · right
    apply late
    rw [given.split, whole]
    exact departed_run (.closed closed) (Nat.le_refl _) inOrder
  · rcases halfOpen_or_departed_run entered (Nat.le_refl _) inOrder with
      all | departed
    · left
      refine ⟨instant, before, between, given, ?_⟩
      intro earlier isPrefix
      rw [whole]
      exact all earlier isPrefix
    · right
      apply late
      rw [given.split, whole]
      exact departed

theorem not_isTrial_of_closed (closed : c.breaker.state = .closed) :
    ¬ c.IsTrial ((now, .ask .acquire) :: ops) c.granted := by
  rintro ⟨instant, before, between, given, halfOpen⟩
  obtain ⟨gives, count⟩ := given.gives
  cases before with
  | nil =>
      rcases gives.enters with ⟨-, entered⟩ | ⟨other, -⟩
      · have trial := entered.symm.trans (halfOpen [] List.nil_prefix)
        cases trial
      · exact other closed
  | cons event rest =>
      obtain ⟨rfl, -⟩ := List.cons.inj given.split
      have first : c.Gives now (.ask .acquire) :=
        gives_of_grants (by simp [Breaker.grants, closed])
      have more := granted_le_run
        (c.step Breaker.kind now (.ask .acquire)).2 rest
      rw [first.count] at more
      have own : c.granted + 1 ≤ c.granted :=
        Nat.le_trans more (Nat.le_of_eq count.symm)
      omega

/-! Recovery -/

theorem success_of_halfOpen (held : permit ∈ c.outstanding)
    (halfOpen : c.breaker.state = .halfOpen) :
    (c.step Breaker.kind now (.resolve permit .success)).2.breaker =
      { c.breaker with state := .closed, failures := [] } := by
  rw [step_breaker]
  simp only [heard?, held, if_true, PermitUse.op?]
  change c.breaker.recordSuccess.breaker = _
  rw [Breaker.recordSuccess_breaker, if_pos halfOpen]

/-- A call is let in, the breaker is forced open, and the first trial follows at
the first instant it can. -/
def overtaken (config : BreakerConfig) : List (Nat × ClientOp) :=
  [(0, .ask .acquire), (0, .ask .forceOpen),
    (config.resetTimeout + 1, .ask .acquire)]

theorem run_overtaken (dependency : String) (config : BreakerConfig) :
    ((new dependency config).run Breaker.kind (overtaken config)).2 =
      { breaker := ⟨dependency, config, .halfOpen, [], some 0⟩
        granted := 2
        outstanding := [0, 1] } := by
  simp [overtaken, new, step, ask, Breaker.kind, Breaker.perform,
    Breaker.acquire, Breaker.forceOpen, Breaker.prune, Breaker.elapsed?,
    Breaker.enter, BreakerReply.ofRefusal]

theorem le_resetTimeout_of_recoversByTrials {config : BreakerConfig}
    {limit : Nat} (recovers : RecoversByTrials config limit) :
    limit ≤ config.resetTimeout := by
  refine Nat.not_lt.mp fun beyond => ?_
  have run := run_overtaken "a" config
  have recovered := (recovers "a" (overtaken config) (config.resetTimeout + 1) 0
    0 [] _ (by simp [overtaken, Clock.InOrder]) ⟨rfl, rfl⟩ (by omega)
    (by simp [run]) (by simp [run])).1
  apply not_isTrial_of_closed (c := new "a" config) rfl
  apply recovered
  rw [success_of_halfOpen (by simp [run]) (by simp [run])]

/-- Any success closes a half-open breaker and clears its history; it is that of
a trial, or of a call under way for more than the reset timeout. So trials alone
decide if and only if calls come back within it. -/
theorem recovers_by_trials_iff (config : BreakerConfig) :
    (∀ dependency ops now permit,
      let start := new dependency config
      let c := (start.run Breaker.kind ops).2
      Clock.InOrder 0 (ops ++ [(now, .resolve permit .success)]) →
      permit ∈ c.outstanding → c.breaker.state = .halfOpen →
        (c.step Breaker.kind now (.resolve permit .success)).2.breaker =
          { c.breaker with state := .closed, failures := [] } ∧
        ∃ instant before between,
          start.GivenAt ops permit instant before between ∧
            (start.IsTrial ops permit ∨
              instant + config.resetTimeout < now)) ∧
    ∀ limit, RecoversByTrials config limit ↔ limit ≤ config.resetTimeout := by
  constructor
  · intro dependency ops now permit start c inOrder held halfOpen
    refine ⟨success_of_halfOpen held halfOpen, ?_⟩
    obtain ⟨instant, before, between, given⟩ :=
      exists_givenAt held List.not_mem_nil
    exact ⟨instant, before, between, given,
      given.isTrial_or_late inOrder halfOpen⟩
  · refine fun limit => ⟨le_resetTimeout_of_recoversByTrials, ?_⟩
    intro within dependency ops now permit instant before between start c after
      inOrder given soon held halfOpen
    have trial : start.IsTrial ops permit := by
      rcases given.isTrial_or_late inOrder halfOpen with trial | late
      · exact trial
      · have late : instant + config.resetTimeout < now := late
        omega
    exact ⟨fun _ => trial, fun other => absurd trial other⟩

/-- Two failures trip the breaker, and of two trials the second comes back first.
At a reset timeout of 100 ms trials alone decide among the calls that come back
within it, and not among those that take a millisecond longer. -/
theorem recovers_by_trials_iff_second_trial :
    let config : BreakerConfig := ⟨2, Clock.millis 100, Clock.millis 60000⟩
    let before : List (Nat × ClientOp) := [
      (0, .ask .acquire), (0, .ask .recordFailure), (0, .resolve 0 .failure),
      (Clock.millis 101, .ask .acquire)]
    let between : List (Nat × ClientOp) := [(Clock.millis 105, .readState)]
    let ops := before ++ (Clock.millis 102, .ask .acquire) :: between
    let start := new "a" config
    let c := (start.run Breaker.kind ops).2
    let after :=
      (c.step Breaker.kind (Clock.millis 160) (.resolve 2 .success)).2
    Clock.InOrder 0 (ops ++ [(Clock.millis 160, .resolve 2 .success)]) ∧
      start.GivenAt ops 2 (Clock.millis 102) before between ∧
      2 ∈ c.outstanding ∧ c.breaker.state = .halfOpen ∧
      c.breaker.failures = [0, 0] ∧
      after.breaker = { c.breaker with state := .closed, failures := [] } ∧
      start.IsTrial ops 2 ∧
      RecoversByTrials config (Clock.millis 100) ∧
      ¬ RecoversByTrials config (Clock.millis 101) := by
  intro config before between ops
  obtain ⟨closes, within⟩ := recovers_by_trials_iff config
  have inOrder :
      Clock.InOrder 0 (ops ++ [(Clock.millis 160, .resolve 2 .success)]) := by
    decide
  have given : (new "a" config).GivenAt ops 2 (Clock.millis 102) before between :=
    ⟨rfl, by decide +kernel⟩
  have held : 2 ∈ ((new "a" config).run Breaker.kind ops).2.outstanding := by
    decide +kernel
  have halfOpen : ((new "a" config).run Breaker.kind ops).2.breaker.state =
      .halfOpen := by decide +kernel
  have known : ((new "a" config).run Breaker.kind ops).2.breaker.failures =
      [0, 0] := by decide +kernel
  have closed := (closes "a" ops (Clock.millis 160) 2 inOrder held halfOpen).1
  have recovers := (within (Clock.millis 100)).mpr (Nat.le_refl _)
  have trial := (recovers "a" ops (Clock.millis 160) 2 (Clock.millis 102) before
    between inOrder given (by decide) held halfOpen).1 (by rw [closed])
  have slower : ¬ RecoversByTrials config (Clock.millis 101) := by
    rw [within]
    decide
  exact ⟨inOrder, given, held, halfOpen, known, closed, trial, recovers, slower⟩

/-- A call is let in, two failures trip the breaker, and its success comes back
once the first trial has been let in: the breaker closes and its failures are
forgotten. -/
theorem recovers_by_late_success :
    let start := new "a" ⟨2, Clock.millis 100, Clock.millis 60000⟩
    let ops : List (Nat × ClientOp) := [
      (0, .ask .acquire), (0, .ask .recordFailure), (0, .ask .recordFailure),
      (Clock.millis 101, .ask .acquire)]
    let c := (start.run Breaker.kind ops).2
    let after :=
      (c.step Breaker.kind (Clock.millis 101) (.resolve 0 .success)).2
    Clock.InOrder 0 (ops ++ [(Clock.millis 101, .resolve 0 .success)]) ∧
      0 ∈ c.outstanding ∧ c.breaker.state = .halfOpen ∧
      c.breaker.failures = [0, 0] ∧ after.breaker.state = .closed ∧
      after.breaker.failures = [] ∧ ¬ start.IsTrial ops 0 :=
  ⟨by decide, by decide, by decide, by decide, by decide, by decide,
    not_isTrial_of_closed rfl⟩

end Clients

end Tollgate
