import Tollgate.Config.Settings
import Tollgate.Telemetry.Event

/-!
A circuit breaker for one dependency. Failures are instants in a sliding
window; enough of them open the breaker, and after its reset timeout a call
attempt moves it to half-open. Old failures are dropped whenever the history is
looked at.
-/

namespace Tollgate

/-- What a breaker goes by; durations are nanoseconds. -/
structure BreakerConfig where
  failMax : Nat
  resetTimeout : Nat
  timeWindow : Nat
deriving DecidableEq

def BreakerThresholds.config (t : BreakerThresholds) : BreakerConfig :=
  ⟨t.failMax, Clock.millis t.resetTimeoutMs, Clock.millis t.timeWindowMs⟩

/-- A call attempt was refused; the remaining time is in nanoseconds. -/
structure CircuitOpen where
  dependency : String
  retryAfter : Nat
deriving DecidableEq

def CircuitOpen.message (o : CircuitOpen) : String :=
  s!"circuit breaker open for '{o.dependency}' (retry in " ++
    toString (Clock.wholeMillis o.retryAfter) ++ "ms)"

structure Breaker where
  dependency : String
  config : BreakerConfig
  state : CircuitState := .closed
  /-- The instants of failures, oldest first. -/
  failures : List Nat := []
  lastFailure : Option Nat := none
deriving DecidableEq

structure BreakerStep where
  breaker : Breaker
  signals : List Signal := []

def BreakerStep.after (step : BreakerStep) (signal : Signal) : BreakerStep :=
  { step with signals := signal :: step.signals }

structure BreakerSnapshot where
  dependency : String
  state : CircuitState
  failureCount : Nat
  failMax : Nat
  resetTimeoutMs : Nat
  timeWindowMs : Nat
  /-- The time until a trial call is admitted, while the breaker is open. -/
  retryAfterMs : Option Nat
deriving DecidableEq

namespace Breaker

def isStale (b : Breaker) (now failure : Nat) : Bool :=
  b.config.timeWindow ≤ now - failure

/-- Drops stale failures, from the oldest on up to the first that counts. -/
def prune (b : Breaker) (now : Nat) : Breaker :=
  { b with failures := b.failures.dropWhile (b.isStale now) }

def enter (b : Breaker) (next : CircuitState) : BreakerStep :=
  if b.state = next then { breaker := b }
  else {
    breaker := { b with state := next }
    signals := [
      .log (.stateChanged b.dependency b.state next),
      .count (.transitions b.dependency next),
      .gauge b.dependency next] }

def elapsed? (b : Breaker) (now : Nat) : Option Nat :=
  b.lastFailure.map (now - ·)

/-- Asks for the right to attempt one call. An open breaker takes the attempt as
a trial once more than its reset timeout has passed since the last failure. -/
def acquire (b : Breaker) (now : Nat) : Option CircuitOpen × BreakerStep :=
  let b := b.prune now
  if b.state = .opened then
    match b.elapsed? now with
    | none => (none, b.enter .halfOpen)
    | some elapsed =>
        if b.config.resetTimeout < elapsed then (none, b.enter .halfOpen)
        else
          (some ⟨b.dependency, b.config.resetTimeout - elapsed⟩,
            { breaker := b, signals := [.count (.rejections b.dependency)] })
  else (none, { breaker := b })

def recordSuccess (b : Breaker) : BreakerStep :=
  if b.state = .halfOpen then { b with failures := [] }.enter .closed
  else { breaker := b }

/-- A failure is added to the history. When enough of them count, a closed or
half-open breaker opens; else a half-open one closes. -/
def recordFailure (b : Breaker) (now : Nat) : BreakerStep :=
  let added :=
    { b with failures := b.failures ++ [now], lastFailure := some now }
  let b := added.prune now
  let count := b.failures.length
  match b.state with
  | .opened => { breaker := b }
  | .closed =>
      if b.config.failMax ≤ count then
        (b.enter .opened).after
          (.log (.tripped b.dependency count b.config.failMax))
      else { breaker := b }
  | .halfOpen =>
      if b.config.failMax ≤ count then
        (b.enter .opened).after (.log (.trialFailed b.dependency count))
      else b.enter .closed

def reset (b : Breaker) : BreakerStep :=
  { b with failures := [], lastFailure := none }.enter .closed

def forceOpen (b : Breaker) (now : Nat) : BreakerStep :=
  { b with lastFailure := some now }.enter .opened

def failureCount (b : Breaker) (now : Nat) : Nat × Breaker :=
  let b := b.prune now
  (b.failures.length, b)

def retryAfter? (b : Breaker) (now : Nat) : Option Nat :=
  match b.state, b.lastFailure with
  | .opened, some failure =>
      if now - failure ≤ b.config.resetTimeout then
        some (b.config.resetTimeout - (now - failure))
      else none
  | _, _ => none

def snapshot (b : Breaker) (now : Nat) : BreakerSnapshot × Breaker :=
  let b := b.prune now
  ({ dependency := b.dependency
     state := b.state
     failureCount := b.failures.length
     failMax := b.config.failMax
     resetTimeoutMs := Clock.wholeMillis b.config.resetTimeout
     timeWindowMs := Clock.wholeMillis b.config.timeWindow
     retryAfterMs := (b.retryAfter? now).map Clock.wholeMillis }, b)

end Breaker

end Tollgate
