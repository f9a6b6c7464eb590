import Tollgate.Breaker.Basic

/-!
What each operation makes of a breaker, its signals left aside.
-/

namespace Tollgate.Breaker

/-! Pruning touches the history alone. -/

@[simp]
theorem prune_dependency (b : Breaker) (now : Nat) :
    (b.prune now).dependency = b.dependency := rfl

@[simp]
theorem prune_config (b : Breaker) (now : Nat) :
    (b.prune now).config = b.config := rfl

@[simp]
theorem prune_state (b : Breaker) (now : Nat) :
    (b.prune now).state = b.state := rfl

@[simp]
theorem prune_lastFailure (b : Breaker) (now : Nat) :
    (b.prune now).lastFailure = b.lastFailure := rfl

@[simp]
theorem retryAfter?_prune (b : Breaker) (now later : Nat) :
    (b.prune now).retryAfter? later = b.retryAfter? later := rfl

theorem with_state_of_eq {b : Breaker} {state : CircuitState}
    (same : b.state = state) : { b with state } = b := by
  subst same
  rfl

@[simp]
theorem enter_breaker (b : Breaker) (next : CircuitState) :
    (b.enter next).breaker = { b with state := next } := by
  unfold enter
  split
  · rename_i same
    exact (with_state_of_eq same).symm
  · rfl

/-! Call attempts. The remaining time of a refusal is the one that reports
show. -/

theorem acquire_of_refused {b : Breaker} {now rest : Nat}
    (refused : b.retryAfter? now = some rest) :
    b.acquire now =
      (some ⟨b.dependency, rest⟩,
        { breaker := b.prune now
          signals := [.count (.rejections b.dependency)] }) := by
  unfold retryAfter? at refused
  split at refused
  · rename_i failure opened last
    split at refused
    · rename_i early
      cases refused
      have notOver : ¬ b.config.resetTimeout < now - failure := by omega
      simp [acquire, elapsed?, opened, last, notOver]
    · contradiction
  · contradiction

theorem acquire_of_granted {b : Breaker} {now : Nat}
    (granted : b.retryAfter? now = none) :
    b.acquire now =
      (none,
        if b.state = .opened then (b.prune now).enter .halfOpen
        else { breaker := b.prune now }) := by
  by_cases opened : b.state = .opened
  · cases last : b.lastFailure with
    | none => simp [acquire, elapsed?, opened, last]
    | some failure =>
        have passed : b.config.resetTimeout < now - failure := by
          simp only [retryAfter?, opened, last] at granted
          split at granted
          · contradiction
          · omega
        simp [acquire, elapsed?, opened, last, passed]
  · simp [acquire, opened]

def grants (b : Breaker) (now : Nat) : Bool :=
  b.state ≠ .opened || b.lastFailure.all (b.config.resetTimeout < now - ·)

theorem retryAfter?_eq_none_iff {b : Breaker} {now : Nat} :
    b.retryAfter? now = none ↔ b.grants now := by
  unfold retryAfter? grants
  cases state : b.state with
  | closed => simp
  | halfOpen => simp
  | opened =>
      cases last : b.lastFailure with
      | none => simp
      | some failure =>
          simp only [ne_eq, not_true_eq_false, decide_false, Option.all_some,
            Bool.false_or, decide_eq_true_eq, ite_eq_right_iff, reduceCtorEq,
            imp_false, Nat.not_le]

/-! Outcomes and interventions -/

/-- The breaker with one more failure in its history. -/
def noting (b : Breaker) (now : Nat) : Breaker :=
  { b with failures := b.failures ++ [now], lastFailure := some now }.prune now

@[simp]
theorem noting_state (b : Breaker) (now : Nat) :
    (b.noting now).state = b.state := rfl

@[simp]
theorem noting_lastFailure (b : Breaker) (now : Nat) :
    (b.noting now).lastFailure = some now := rfl

@[simp]
theorem after_breaker (step : BreakerStep) (signal : Signal) :
    (step.after signal).breaker = step.breaker := rfl

theorem recordSuccess_breaker (b : Breaker) :
    b.recordSuccess.breaker =
      if b.state = .halfOpen then { b with failures := [], state := .closed }
      else b := by
  unfold recordSuccess
  split
  · rw [enter_breaker]
  · rfl

theorem recordFailure_of_opened {b : Breaker} (opened : b.state = .opened)
    (now : Nat) : b.recordFailure now = { breaker := b.noting now } := by
  obtain ⟨dependency, config, state, failures, last⟩ := b
  cases opened
  rfl

theorem recordFailure_of_closed {b : Breaker} (closed : b.state = .closed)
    (now : Nat) :
    b.recordFailure now =
      if b.config.failMax ≤ (b.noting now).failures.length then
        ((b.noting now).enter .opened).after (.log (.tripped b.dependency
          (b.noting now).failures.length b.config.failMax))
      else { breaker := b.noting now } := by
  obtain ⟨dependency, config, state, failures, last⟩ := b
  cases closed
  rfl

theorem recordFailure_of_halfOpen {b : Breaker} (trial : b.state = .halfOpen)
    (now : Nat) :
    b.recordFailure now =
      if b.config.failMax ≤ (b.noting now).failures.length then
        ((b.noting now).enter .opened).after (.log (.trialFailed b.dependency
          (b.noting now).failures.length))
      else (b.noting now).enter .closed := by
  obtain ⟨dependency, config, state, failures, last⟩ := b
  cases trial
  rfl

/-- A failure leaves an open breaker open; any other is open afterwards if
enough failures count, and closed if not. -/
theorem recordFailure_breaker (b : Breaker) (now : Nat) :
    (b.recordFailure now).breaker =
      { b.noting now with
        state :=
          if b.state = .opened then .opened
          else if b.config.failMax ≤ (b.noting now).failures.length then .opened
          else .closed } := by
  cases state : b.state with
  | opened =>
      rw [recordFailure_of_opened state, if_pos rfl]
      exact (with_state_of_eq (b := b.noting now) state).symm
  | closed =>
      by_cases tripped : b.config.failMax ≤ (b.noting now).failures.length
      · simp [recordFailure_of_closed state, tripped]
      · rw [recordFailure_of_closed state]
        simp only [tripped, reduceCtorEq, if_false]
        exact (with_state_of_eq (b := b.noting now) state).symm
  | halfOpen =>
      by_cases tripped : b.config.failMax ≤ (b.noting now).failures.length
      · simp [recordFailure_of_halfOpen state, tripped]
      · simp [recordFailure_of_halfOpen state, tripped]

@[simp]
theorem reset_breaker (b : Breaker) :
    b.reset.breaker =
      { b with failures := [], lastFailure := none, state := .closed } := by
  rw [reset, enter_breaker]

@[simp]
theorem forceOpen_breaker (b : Breaker) (now : Nat) :
    (b.forceOpen now).breaker =
      { b with lastFailure := some now, state := .opened } := by
  rw [forceOpen, enter_breaker]

end Tollgate.Breaker
