import Tollgate.Breaker.Run
import Tollgate.Proofs.Breaker.Operations

/-!
What a breaker tells of an operation. Nothing, or that it has refused an
attempt, or that it has entered another state; with a change to the open state
goes a warning that says why.
-/

namespace Tollgate

def LogEvent.isTrip : LogEvent → Bool
  | tripped .. | trialFailed .. => true
  | _ => false

def BreakerReply.isRefusal : BreakerReply → Bool
  | refused _ => true
  | _ => false

namespace Breaker

def changeSignals (dependency : String) (before after : CircuitState) :
    List Signal :=
  [.log (.stateChanged dependency before after),
    .count (.transitions dependency after), .gauge dependency after]

/-- What the breaker of the dependency can answer and tell in a state, and the
state it is in afterwards. -/
inductive Tells (dependency : String) (state : CircuitState) :
    BreakerReply → List Signal → CircuitState → Prop where
  | stays (reply : BreakerReply) (answered : reply.isRefusal = false) :
      Tells dependency state reply [] state
  | refuses (circuit : CircuitOpen) :
      Tells dependency state (.refused circuit)
        [.count (.rejections dependency)] state
  | enters (reply : BreakerReply) (answered : reply.isRefusal = false)
      (next : CircuitState) (other : state ≠ next) :
      Tells dependency state reply (changeSignals dependency state next) next
  | trips (reply : BreakerReply) (answered : reply.isRefusal = false)
      (event : LogEvent) (trip : event.isTrip) (next : CircuitState)
      (other : state ≠ next) :
      Tells dependency state reply
        (.log event :: changeSignals dependency state next) next

theorem enter_tells (b : Breaker) (next : CircuitState) {reply : BreakerReply}
    (answered : reply.isRefusal = false) :
    Tells b.dependency b.state reply (b.enter next).signals next := by
  unfold enter
  split
  · rename_i same
    rw [← same]
    exact .stays reply answered
  · rename_i other
    exact .enters reply answered next other

theorem trip_tells (b : Breaker) (event : LogEvent) (trip : event.isTrip)
    (other : b.state ≠ .opened) :
    Tells b.dependency b.state .done
      ((b.enter .opened).after (.log event)).signals .opened := by
  unfold enter
  rw [if_neg other]
  exact .trips .done rfl event trip .opened other

theorem recordFailure_tells (b : Breaker) (now : Nat) :
    Tells b.dependency b.state .done (b.recordFailure now).signals
      (b.recordFailure now).breaker.state := by
  cases state : b.state with
  | opened =>
      rw [recordFailure_of_opened state, ← state]
      exact .stays _ rfl
  | closed =>
      have trip := trip_tells (b.noting now)
        (.tripped b.dependency (b.noting now).failures.length b.config.failMax)
        rfl (by simp [state])
      rw [recordFailure_of_closed state, ← state]
      split
      · rw [after_breaker, enter_breaker]
        exact trip
      · exact .stays _ rfl
  | halfOpen =>
      have trip := trip_tells (b.noting now)
        (.trialFailed b.dependency (b.noting now).failures.length) rfl
        (by simp [state])
      rw [recordFailure_of_halfOpen state, ← state]
      split
      · rw [after_breaker, enter_breaker]
        exact trip
      · rw [enter_breaker]
        exact enter_tells (b.noting now) .closed rfl

theorem perform_tells (b : Breaker) (now : Nat) (op : BreakerOp) :
    Tells b.dependency b.state (b.perform now op).1
      (b.perform now op).2.signals (b.perform now op).2.breaker.state := by
  cases op with
  | acquire =>
      change Tells _ _ (.ofRefusal (b.acquire now).1) (b.acquire now).2.signals
        (b.acquire now).2.breaker.state
      cases wait : b.retryAfter? now with
      | some rest =>
          rw [acquire_of_refused wait]
          exact .refuses _
      | none =>
          rw [acquire_of_granted wait]
          split
          · rw [enter_breaker]
            exact enter_tells (b.prune now) .halfOpen rfl
          · exact .stays _ rfl
  | recordSuccess =>
      change Tells _ _ .done b.recordSuccess.signals
        b.recordSuccess.breaker.state
      unfold recordSuccess
      split
      · rw [enter_breaker]
        exact enter_tells { b with failures := [] } .closed rfl
      · exact .stays _ rfl
  | recordFailure => exact recordFailure_tells b now
  | reset =>
      change Tells _ _ .done b.reset.signals b.reset.breaker.state
      rw [reset_breaker]
      exact enter_tells { b with failures := [], lastFailure := none } .closed
        rfl
  | forceOpen =>
      change Tells _ _ .done (b.forceOpen now).signals
        (b.forceOpen now).breaker.state
      rw [forceOpen_breaker]
      exact enter_tells { b with lastFailure := some now } .opened rfl
  | failureCount => exact .stays _ rfl
  | snapshot => exact .stays _ rfl

end Breaker

end Tollgate
