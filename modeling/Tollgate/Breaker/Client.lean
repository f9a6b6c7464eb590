import Tollgate.Breaker.Windowed

/-!
Clients of a breaker and the permits they hold. An attempt that is granted
leaves a permit outstanding. The outcome of its call may come back at any later
time, whatever has become of other permits, or never.
-/

namespace Tollgate

/-- What clients see of a breaker, however it is made. -/
structure BreakerKind (β : Type) where
  perform : β → Nat → BreakerOp → BreakerReply × β
  state : β → CircuitState

def Breaker.kind : BreakerKind Breaker where
  perform b now op :=
    let (reply, step) := b.perform now op
    (reply, step.breaker)
  state := Breaker.state

def WindowedBreaker.kind : BreakerKind WindowedBreaker where
  perform := WindowedBreaker.perform
  state := WindowedBreaker.state

inductive PermitUse where
  | success
  | failure
  | dropped
deriving DecidableEq

def PermitUse.op? : PermitUse → Option BreakerOp
  | success => some .recordSuccess
  | failure => some .recordFailure
  | dropped => none

inductive ClientOp where
  | ask (op : BreakerOp)
  | resolve (permit : Nat) (use : PermitUse)
  | readState
deriving DecidableEq

inductive ClientReply where
  | breaker (reply : BreakerReply)
  | permit (id : Nat)
  | state (state : CircuitState)
  | done
  | notOutstanding
deriving DecidableEq

structure Clients (β : Type) where
  breaker : β
  /-- The number of permits given so far; the next one has it for its id. -/
  granted : Nat := 0
  outstanding : List Nat := []

namespace Clients

variable (kind : BreakerKind β)

def ask (c : Clients β) (now : Nat) (op : BreakerOp) :
    ClientReply × Clients β :=
  match kind.perform c.breaker now op with
  | (.granted, breaker) =>
      (.permit c.granted,
        ⟨breaker, c.granted + 1, c.outstanding ++ [c.granted]⟩)
  | (reply, breaker) => (.breaker reply, { c with breaker })

/-- Uses up a permit. One that is not outstanding cannot be used. -/
def resolve (c : Clients β) (now permit : Nat) (use : PermitUse) :
    ClientReply × Clients β :=
  if permit ∈ c.outstanding then
    let outstanding := c.outstanding.erase permit
    match use.op? with
    | some op =>
        (.done,
          { c with breaker := (kind.perform c.breaker now op).2, outstanding })
    | none => (.done, { c with outstanding })
  else (.notOutstanding, c)

def step (c : Clients β) (now : Nat) : ClientOp → ClientReply × Clients β
  | .ask op => c.ask kind now op
  | .resolve permit use => c.resolve kind now permit use
  | .readState => (.state (kind.state c.breaker), c)

def run (c : Clients β) :
    List (Nat × ClientOp) → List ClientReply × Clients β
  | [] => ([], c)
  | (now, op) :: rest =>
      let (answer, c) := c.step kind now op
      let (answers, c) := c.run rest
      (answer :: answers, c)

@[simp]
theorem run_nil (c : Clients β) : c.run kind [] = ([], c) := rfl

@[simp]
theorem run_cons (c : Clients β) (now : Nat) (op : ClientOp)
    (rest : List (Nat × ClientOp)) :
    c.run kind ((now, op) :: rest) =
      ((c.step kind now op).1 :: ((c.step kind now op).2.run kind rest).1,
        ((c.step kind now op).2.run kind rest).2) := rfl

end Clients

end Tollgate
