import Tollgate.Session.Run

/-!
The steps of a session, with their answers. What a session answers to an
operation of the ledger is what the ledger answers.
-/

namespace Tollgate.Session

theorem run_cons (s : Session) (step : Step) (rest : List Step) :
    s.run (step :: rest) =
      ((s.step step).1 :: ((s.step step).2.run rest).1,
        ((s.step step).2.run rest).2) := rfl

def transcript (s : Session) (steps : List Step) : List (Step × Answer) :=
  steps.zip (s.run steps).1

theorem transcript_cons (s : Session) (step : Step) (rest : List Step) :
    s.transcript (step :: rest) =
      (step, (s.step step).1) :: (s.step step).2.transcript rest := rfl

/-! Answers of the ledger, passed on -/

def answerOf {α ε : Type} (answer : α → Answer) (error : ε → LedgerError) :
    Except ε α → Answer
  | .ok a => answer a
  | .error e => .ledgerError (error e)

theorem reserve_eq (s : Session) (tenant : String) (cost : Float) :
    s.reserve tenant cost =
      (answerOf .reservation id
          (s.gate.ledger.reserve s.gate.now tenant cost).1,
        { s with
          gate := { s.gate with
            ledger := (s.gate.ledger.reserve s.gate.now tenant cost).2.2 }.tell
              (s.gate.ledger.reserve s.gate.now tenant cost).2.1 }) := by
  unfold reserve Gate.reserve
  generalize s.gate.ledger.reserve s.gate.now tenant cost = reserved
  obtain ⟨answer, signals, ledger⟩ := reserved
  cases answer with
  | error error => rfl
  | ok reservation => rfl

theorem release_eq (s : Session) (tenant : String) (cost : Float)
    (period : Option Nat) :
    s.release tenant cost period =
      (answerOf .newTotal id
          (s.gate.ledger.release s.gate.now tenant cost period).1,
        { s with
          gate := { s.gate with
            ledger :=
              (s.gate.ledger.release s.gate.now tenant cost period).2 } }) := by
  unfold release Gate.release
  generalize s.gate.ledger.release s.gate.now tenant cost period = released
  obtain ⟨answer, ledger⟩ := released
  cases answer with
  | error error => rfl
  | ok total => rfl

theorem budgetStatus_eq (s : Session) (tenant : String) :
    s.step (.budgetStatus tenant) =
      (.budgetStatus (s.gate.ledger.status s.gate.now tenant).1,
        { s with
          gate := { s.gate with
            ledger := (s.gate.ledger.status s.gate.now tenant).2.2 }.tell
              (s.gate.ledger.status s.gate.now tenant).2.1 }) := rfl

theorem spendSnapshot_eq (s : Session) (tenant : String) :
    s.spendSnapshot tenant =
      (answerOf .spendSnapshot .store
          (s.gate.ledger.snapshot s.gate.now tenant).1,
        { s with
          gate := { s.gate with
            ledger := (s.gate.ledger.snapshot s.gate.now tenant).2 } }) := by
  unfold spendSnapshot Gate.spendSnapshot
  generalize s.gate.ledger.snapshot s.gate.now tenant = read
  obtain ⟨answer, ledger⟩ := read
  cases answer with
  | error error => rfl
  | ok snapshot => rfl

theorem health_eq (s : Session) :
    s.step .health =
      (answerOf (fun () => .done) .store s.gate.ledger.health, s) := by
  change s.health = _
  unfold health
  cases s.gate.ledger.health with
  | error error => rfl
  | ok => rfl

end Tollgate.Session
