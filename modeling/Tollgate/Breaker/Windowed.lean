import Tollgate.Breaker.Run

/-!
A breaker that forgets no failure. It keeps all of them since they were last
cleared, and counts those inside the time window whenever it has to decide.
-/

namespace Tollgate

structure WindowedBreaker where
  dependency : String
  config : BreakerConfig
  state : CircuitState := .closed
  /-- The instants of all failures since the last clearing. -/
  failures : List Nat := []
  lastFailure : Option Nat := none
deriving DecidableEq

namespace WindowedBreaker

def count (b : WindowedBreaker) (now : Nat) : Nat :=
  b.failures.countP fun failure => now - failure < b.config.timeWindow

def refusedFor? (b : WindowedBreaker) (now : Nat) : Option Nat :=
  match b.state, b.lastFailure with
  | .opened, some failure =>
      if now ≤ failure + b.config.resetTimeout then
        some (failure + b.config.resetTimeout - now)
      else none
  | _, _ => none

def acquire (b : WindowedBreaker) (now : Nat) :
    Option CircuitOpen × WindowedBreaker :=
  match b.refusedFor? now with
  | some rest => (some ⟨b.dependency, rest⟩, b)
  | none =>
      (none, if b.state = .opened then { b with state := .halfOpen } else b)

def recordSuccess (b : WindowedBreaker) : WindowedBreaker :=
  if b.state = .halfOpen then { b with state := .closed, failures := [] } else b

def recordFailure (b : WindowedBreaker) (now : Nat) : WindowedBreaker :=
  let added :=
    { b with failures := b.failures ++ [now], lastFailure := some now }
  if b.state = .opened then added
  else if b.config.failMax ≤ added.count now then
    { added with state := .opened }
  else { added with state := .closed }

def reset (b : WindowedBreaker) : WindowedBreaker :=
  { b with state := .closed, failures := [], lastFailure := none }

def forceOpen (b : WindowedBreaker) (now : Nat) : WindowedBreaker :=
  { b with state := .opened, lastFailure := some now }

def snapshot (b : WindowedBreaker) (now : Nat) : BreakerSnapshot where
  dependency := b.dependency
  state := b.state
  failureCount := b.count now
  failMax := b.config.failMax
  resetTimeoutMs := Clock.wholeMillis b.config.resetTimeout
  timeWindowMs := Clock.wholeMillis b.config.timeWindow
  retryAfterMs := (b.refusedFor? now).map Clock.wholeMillis

def perform (b : WindowedBreaker) (now : Nat) :
    BreakerOp → BreakerReply × WindowedBreaker
  | .acquire =>
      let (refusal, b) := b.acquire now
      (.ofRefusal refusal, b)
  | .recordSuccess => (.done, b.recordSuccess)
  | .recordFailure => (.done, b.recordFailure now)
  | .reset => (.done, b.reset)
  | .forceOpen => (.done, b.forceOpen now)
  | .failureCount => (.count (b.count now), b)
  | .snapshot => (.snapshot (b.snapshot now), b)

def run (b : WindowedBreaker) :
    List (Nat × BreakerOp) → List BreakerReply × WindowedBreaker
  | [] => ([], b)
  | (now, op) :: rest =>
      let (answer, b) := b.perform now op
      let (answers, b) := b.run rest
      (answer :: answers, b)

end WindowedBreaker

end Tollgate
