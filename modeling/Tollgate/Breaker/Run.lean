import Tollgate.Breaker.Basic

/-!
Runs of a breaker: operations one after the other, each at its instant. A permit
comes back as a success or a failure of its call, or not at all.
-/

namespace Tollgate

inductive BreakerOp where
  | acquire
  | recordSuccess
  | recordFailure
  | reset
  | forceOpen
  | failureCount
  | snapshot
deriving DecidableEq

inductive BreakerReply where
  | done
  | granted
  | refused (circuit : CircuitOpen)
  | count (n : Nat)
  | snapshot (snapshot : BreakerSnapshot)
deriving DecidableEq

namespace BreakerReply

def ofRefusal : Option CircuitOpen → BreakerReply
  | none => granted
  | some circuit => refused circuit

end BreakerReply

namespace Breaker

def perform (b : Breaker) (now : Nat) : BreakerOp → BreakerReply × BreakerStep
  | .acquire =>
      let (refusal, step) := b.acquire now
      (.ofRefusal refusal, step)
  | .recordSuccess => (.done, b.recordSuccess)
  | .recordFailure => (.done, b.recordFailure now)
  | .reset => (.done, b.reset)
  | .forceOpen => (.done, b.forceOpen now)
  | .failureCount =>
      let (n, breaker) := b.failureCount now
      (.count n, { breaker })
  | .snapshot =>
      let (snapshot, breaker) := b.snapshot now
      (.snapshot snapshot, { breaker })

def run (b : Breaker) : List (Nat × BreakerOp) → List BreakerReply × Breaker
  | [] => ([], b)
  | (now, op) :: rest =>
      let (answer, step) := b.perform now op
      let (answers, b) := step.breaker.run rest
      (answer :: answers, b)

@[simp]
theorem run_nil (b : Breaker) : b.run [] = ([], b) := rfl

@[simp]
theorem run_cons (b : Breaker) (now : Nat) (op : BreakerOp)
    (rest : List (Nat × BreakerOp)) :
    b.run ((now, op) :: rest) =
      ((b.perform now op).1 :: ((b.perform now op).2.breaker.run rest).1,
        ((b.perform now op).2.breaker.run rest).2) := rfl

end Breaker

end Tollgate
