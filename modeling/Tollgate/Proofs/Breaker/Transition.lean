import Tollgate.Breaker.Client
import Tollgate.Proofs.Breaker.Operations

/-!
What operations can do to the state of a breaker and to its last failure, and
what clients can do to either. All that is said of runs is read off these cases.
-/

namespace Tollgate

namespace Breaker

theorem perform_breaker (b : Breaker) (now : Nat) (op : BreakerOp) :
    ∃ state failures lastFailure,
      (b.perform now op).2.breaker =
        { b with state, failures, lastFailure } := by
  cases op with
  | acquire =>
      change ∃ state failures lastFailure, (b.acquire now).2.breaker = _
      cases wait : b.retryAfter? now with
      | some rest =>
          rw [acquire_of_refused wait]
          exact ⟨_, _, _, rfl⟩
      | none =>
          rw [acquire_of_granted wait]
          split
          · rw [enter_breaker]
            exact ⟨_, _, _, rfl⟩
          · exact ⟨_, _, _, rfl⟩
  | recordSuccess =>
      change ∃ state failures lastFailure, b.recordSuccess.breaker = _
      rw [recordSuccess_breaker]
      split
      · exact ⟨_, _, _, rfl⟩
      · exact ⟨_, _, _, rfl⟩
  | recordFailure =>
      change ∃ state failures lastFailure, (b.recordFailure now).breaker = _
      rw [recordFailure_breaker]
      exact ⟨_, _, _, rfl⟩
  | reset =>
      change ∃ state failures lastFailure, b.reset.breaker = _
      rw [reset_breaker]
      exact ⟨_, _, _, rfl⟩
  | forceOpen =>
      change ∃ state failures lastFailure, (b.forceOpen now).breaker = _
      rw [forceOpen_breaker]
      exact ⟨_, _, _, rfl⟩
  | failureCount => exact ⟨_, _, _, rfl⟩
  | snapshot => exact ⟨_, _, _, rfl⟩

@[simp]
theorem perform_config (b : Breaker) (now : Nat) (op : BreakerOp) :
    (b.perform now op).2.breaker.config = b.config := by
  obtain ⟨state, failures, lastFailure, after⟩ := b.perform_breaker now op
  rw [after]

theorem run_config (b : Breaker) (ops : List (Nat × BreakerOp)) :
    (b.run ops).2.config = b.config := by
  induction ops generalizing b with
  | nil => rfl
  | cons event rest ih => exact (ih _).trans (b.perform_config event.1 event.2)

@[simp]
theorem perform_dependency (b : Breaker) (now : Nat) (op : BreakerOp) :
    (b.perform now op).2.breaker.dependency = b.dependency := by
  obtain ⟨state, failures, lastFailure, after⟩ := b.perform_breaker now op
  rw [after]

theorem run_dependency (b : Breaker) (ops : List (Nat × BreakerOp)) :
    (b.run ops).2.dependency = b.dependency := by
  induction ops generalizing b with
  | nil => rfl
  | cons event rest ih =>
      exact (ih _).trans (b.perform_dependency event.1 event.2)

/-- What becomes of a breaker's state and of its last failure when it hears of
an operation, or of none. -/
inductive Change (now : Nat) (b : Breaker) :
    Option BreakerOp → CircuitState → Option Nat → Prop where
  | kept (heard : Option BreakerOp) (unfailed : heard ≠ some .recordFailure)
      (unreset : heard ≠ some .reset) (unforced : heard ≠ some .forceOpen)
      (waits : heard = some .acquire → b.state = .opened →
        b.grants now = false) :
      Change now b heard b.state b.lastFailure
  | trial (opened : b.state = .opened) (granted : b.grants now) :
      Change now b (some .acquire) .halfOpen b.lastFailure
  | recovered (halfOpen : b.state = .halfOpen) :
      Change now b (some .recordSuccess) .closed b.lastFailure
  | failed (state : CircuitState) (stays : b.state = .opened → state = .opened)
      (ends : state ≠ .halfOpen) :
      Change now b (some .recordFailure) state (some now)
  | reset : Change now b (some .reset) .closed none
  | forced : Change now b (some .forceOpen) .opened (some now)

theorem perform_change (b : Breaker) (now : Nat) (op : BreakerOp) :
    b.Change now (some op) (b.perform now op).2.breaker.state
      (b.perform now op).2.breaker.lastFailure := by
  cases op with
  | acquire =>
      change b.Change now _ (b.acquire now).2.breaker.state
        (b.acquire now).2.breaker.lastFailure
      cases wait : b.retryAfter? now with
      | some rest =>
          rw [acquire_of_refused wait]
          have refused : b.grants now = false := by
            rw [Bool.eq_false_iff, ne_eq, ← retryAfter?_eq_none_iff, wait]
            exact nofun
          exact .kept _ nofun nofun nofun fun _ _ => refused
      | none =>
          rw [acquire_of_granted wait]
          split
          · rename_i opened
            rw [enter_breaker]
            exact .trial opened (retryAfter?_eq_none_iff.mp wait)
          · rename_i other
            exact .kept _ nofun nofun nofun fun _ opened => absurd opened other
  | recordSuccess =>
      change b.Change now _ b.recordSuccess.breaker.state
        b.recordSuccess.breaker.lastFailure
      rw [recordSuccess_breaker]
      split
      · rename_i halfOpen
        exact .recovered halfOpen
      · exact .kept _ nofun nofun nofun nofun
  | recordFailure =>
      change b.Change now _ (b.recordFailure now).breaker.state
        (b.recordFailure now).breaker.lastFailure
      rw [recordFailure_breaker]
      refine .failed _ (fun opened => if_pos opened) ?_
      split
      · exact nofun
      · split <;> exact nofun
  | reset =>
      change b.Change now _ b.reset.breaker.state b.reset.breaker.lastFailure
      rw [reset_breaker]
      exact .reset
  | forceOpen =>
      change b.Change now _ (b.forceOpen now).breaker.state
        (b.forceOpen now).breaker.lastFailure
      rw [forceOpen_breaker]
      exact .forced
  | failureCount => exact .kept _ nofun nofun nofun nofun
  | snapshot => exact .kept _ nofun nofun nofun nofun

theorem perform_eq_granted_iff {b : Breaker} {now : Nat} {op : BreakerOp} :
    (b.perform now op).1 = .granted ↔ op = .acquire ∧ b.grants now := by
  cases op with
  | acquire =>
      change BreakerReply.ofRefusal (b.acquire now).1 = .granted ↔ _
      rw [← retryAfter?_eq_none_iff]
      cases wait : b.retryAfter? now with
      | some rest =>
          rw [acquire_of_refused wait]
          simp [BreakerReply.ofRefusal]
      | none =>
          rw [acquire_of_granted wait]
          simp [BreakerReply.ofRefusal]
  | recordSuccess => simp [perform]
  | recordFailure => simp [perform]
  | reset => simp [perform]
  | forceOpen => simp [perform]
  | failureCount => simp [perform]
  | snapshot => simp [perform]

end Breaker

namespace Clients

variable {β : Type}

def heard? (c : Clients β) : ClientOp → Option BreakerOp
  | .ask op => some op
  | .resolve permit use => if permit ∈ c.outstanding then use.op? else none
  | .readState => none

theorem eq_ask_of_heard {c : Clients β} {op : ClientOp} {heard : BreakerOp}
    (hears : c.heard? op = some heard) :
    op = .ask heard ∨ heard = .recordSuccess ∨ heard = .recordFailure := by
  cases op with
  | ask op =>
      cases hears
      exact .inl rfl
  | resolve permit use =>
      simp only [heard?] at hears
      split at hears
      · cases use with
        | success =>
            cases hears
            exact .inr (.inl rfl)
        | failure =>
            cases hears
            exact .inr (.inr rfl)
        | dropped => cases hears
      · cases hears
  | readState => cases hears

theorem ask_breaker (kind : BreakerKind β) (c : Clients β) (now : Nat)
    (op : BreakerOp) :
    (c.ask kind now op).2.breaker = (kind.perform c.breaker now op).2 := by
  unfold ask
  split <;> rename_i performed <;> rw [performed]

theorem step_breaker (kind : BreakerKind β) (c : Clients β) (now : Nat)
    (op : ClientOp) :
    (c.step kind now op).2.breaker =
      match c.heard? op with
      | some heard => (kind.perform c.breaker now heard).2
      | none => c.breaker := by
  cases op with
  | ask op => exact ask_breaker kind c now op
  | resolve permit use =>
      simp only [step, resolve, heard?]
      by_cases held : permit ∈ c.outstanding
      · simp only [held, if_true]
        cases use.op? <;> rfl
      · simp only [held, if_false]
  | readState => rfl

theorem run_append (kind : BreakerKind β) (c : Clients β)
    (first second : List (Nat × ClientOp)) :
    (c.run kind (first ++ second)).2 =
      ((c.run kind first).2.run kind second).2 := by
  induction first generalizing c with
  | nil => rfl
  | cons event rest ih => exact ih _

variable {c : Clients Breaker} {now : Nat} {op : ClientOp}

theorem step_change (c : Clients Breaker) (now : Nat) (op : ClientOp) :
    c.breaker.Change now (c.heard? op)
      (c.step Breaker.kind now op).2.breaker.state
      (c.step Breaker.kind now op).2.breaker.lastFailure := by
  rw [step_breaker]
  cases c.heard? op with
  | some heard => exact c.breaker.perform_change now heard
  | none => exact .kept none nofun nofun nofun nofun

@[simp]
theorem step_config (c : Clients Breaker) (now : Nat) (op : ClientOp) :
    (c.step Breaker.kind now op).2.breaker.config = c.breaker.config := by
  rw [step_breaker]
  cases c.heard? op with
  | some heard => exact c.breaker.perform_config now heard
  | none => rfl

@[simp]
theorem run_config (c : Clients Breaker) (ops : List (Nat × ClientOp)) :
    (c.run Breaker.kind ops).2.breaker.config = c.breaker.config := by
  induction ops generalizing c with
  | nil => rfl
  | cons event rest ih => rw [run_cons, ih, step_config]

/-! Permits -/

/-- An attempt that the breaker grants gives a permit with an id of its own. -/
structure Gives (c : Clients Breaker) (now : Nat) (op : ClientOp) : Prop where
  asked : op = .ask .acquire
  granted : c.breaker.grants now
  answer : (c.step Breaker.kind now op).1 = .permit c.granted
  count : (c.step Breaker.kind now op).2.granted = c.granted + 1
  outstanding : (c.step Breaker.kind now op).2.outstanding =
    c.outstanding ++ [c.granted]

structure GivesNone (c : Clients Breaker) (now : Nat) (op : ClientOp) :
    Prop where
  refused : op = .ask .acquire → c.breaker.grants now = false
  answer : ∀ permit, (c.step Breaker.kind now op).1 ≠ .permit permit
  count : (c.step Breaker.kind now op).2.granted = c.granted
  outstanding : (c.step Breaker.kind now op).2.outstanding ⊆ c.outstanding

theorem ask_of_not_granted {op : BreakerOp}
    (other : (c.breaker.perform now op).1 ≠ .granted) :
    c.ask Breaker.kind now op =
      (.breaker (c.breaker.perform now op).1,
        { c with breaker := (c.breaker.perform now op).2.breaker }) := by
  simp only [ask, Breaker.kind]

theorem ask_of_granted {op : BreakerOp}
    (granted : (c.breaker.perform now op).1 = .granted) :
    c.ask Breaker.kind now op =
      (.permit c.granted,
        ⟨(c.breaker.perform now op).2.breaker, c.granted + 1,
          c.outstanding ++ [c.granted]⟩) := by
  simp only [ask, Breaker.kind, granted]

theorem gives_or_givesNone (c : Clients Breaker) (now : Nat) (op : ClientOp) :
    c.Gives now op ∨ c.GivesNone now op := by
  cases op with
  | ask op =>
      by_cases granted : (c.breaker.perform now op).1 = .granted
      · obtain ⟨rfl, grants⟩ := Breaker.perform_eq_granted_iff.mp granted
        have given := ask_of_granted granted
        exact .inl ⟨rfl, grants, congrArg (·.1) given,
          congrArg (·.2.granted) given, congrArg (·.2.outstanding) given⟩
      · have kept := ask_of_not_granted granted
        refine .inr ⟨?_, ?_, congrArg (·.2.granted) kept, ?_⟩
        · intro asked
          cases asked
          exact Bool.eq_false_iff.mpr fun grants =>
            granted (Breaker.perform_eq_granted_iff.mpr ⟨rfl, grants⟩)
        · rw [step, kept]
          exact fun _ => nofun
        · rw [step, kept]
          exact List.Subset.refl _
  | resolve permit use =>
      right
      refine ⟨nofun, ?_, ?_, ?_⟩ <;> simp only [step, resolve] <;> split
      · cases use.op? <;> exact fun _ => nofun
      · exact fun _ => nofun
      · cases use.op? <;> rfl
      · rfl
      · cases use.op? <;> exact List.erase_subset
      · exact List.Subset.refl _
  | readState => exact .inr ⟨nofun, fun _ => nofun, rfl, List.Subset.refl _⟩

theorem gives_of_grants (granted : c.breaker.grants now) :
    c.Gives now (.ask .acquire) := by
  rcases c.gives_or_givesNone now (.ask .acquire) with given | none
  · exact given
  · rw [none.refused rfl] at granted
    cases granted

theorem granted_le_step (c : Clients Breaker) (now : Nat) (op : ClientOp) :
    c.granted ≤ (c.step Breaker.kind now op).2.granted := by
  rcases c.gives_or_givesNone now op with given | none
  · exact given.count ▸ Nat.le_succ _
  · exact Nat.le_of_eq none.count.symm

theorem granted_le_run (c : Clients Breaker) (ops : List (Nat × ClientOp)) :
    c.granted ≤ (c.run Breaker.kind ops).2.granted := by
  induction ops generalizing c with
  | nil => exact Nat.le_refl _
  | cons event rest ih => exact Nat.le_trans (granted_le_step c _ _) (ih _)

end Clients

end Tollgate
