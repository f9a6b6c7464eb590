import Tollgate.Proofs.Traffic.Books

/-!
An admission that nothing comes in between of. Taken step by step, it leaves the
gate as the whole admission does.
-/

namespace Tollgate.Traffic

def ending (place : Nat) : List Move :=
  [.poll place, .refund place 0, .settle place]

/-- All steps that an admission may take, as the ticket at a place. Those that
it does not come to have no effect. -/
def stepByStep (place : Nat) (tenant dependency : String) (cost : Float)
    (result : Except String String) : List Move :=
  .arrive tenant dependency cost :: .askBreaker place :: .finish place result ::
    ending place

variable {t : Traffic} {gate : Gate} {before : List Ticket} {ticket : Ticket}

/-! Steps of the ticket that came last -/

theorem withTicket_of_absent {place : Nat} (absent : t.tickets.length ≤ place)
    (step : Traffic → Nat → Ticket → Traffic) :
    t.withTicket place step = t := by
  unfold withTicket
  rw [List.getElem?_eq_none absent]

theorem withTicket_last (step : Traffic → Nat → Ticket → Traffic) :
    (Traffic.mk gate (before ++ [ticket])).withTicket before.length step =
      step ⟨gate, before ++ [ticket]⟩ before.length ticket := by
  unfold withTicket
  rw [List.getElem?_concat_length]

theorem setTicket_last (gate later : Gate) (next : Ticket) :
    { Traffic.mk gate (before ++ [ticket]) with gate := later }.setTicket
      before.length next = ⟨later, before ++ [next]⟩ := by
  simp [setTicket]

theorem run_of_failed {outcome : AdmissionOutcome} {reason : String}
    (failed : ticket.stage = .settling outcome)
    (guard : ticket.guard = .rollingBack reason)
    (refunds : ticket.refunds = []) :
    ((Traffic.mk gate (before ++ [ticket])).run (ending before.length)).gate =
      (gate.refund ticket.hold reason).conclude outcome := by
  obtain ⟨hold, dependency, allowed, stage, holds, begun⟩ := ticket
  cases failed
  cases guard
  cases refunds
  let waiting (state : RefundState) : Ticket :=
    ⟨hold, dependency, allowed, .settling outcome, .disarmed, [⟨reason, state⟩]⟩
  have polled : (Traffic.mk gate (before ++ [⟨hold, dependency, allowed,
      .settling outcome, .rollingBack reason, []⟩])).move
        (.poll before.length) = ⟨gate, before ++ [waiting .pending]⟩ := by
    rw [move, withTicket_last]
    exact setTicket_last gate gate _
  have refunded : ∃ state ≠ .pending,
      (Traffic.mk gate (before ++ [waiting .pending])).move
        (.refund before.length 0) =
          ⟨gate.refund hold reason, before ++ [waiting state]⟩ := by
    refine ⟨if gate.ledger.outage.isNone then .answered else .lost, ?_, ?_⟩
    · split
      · exact nofun
      · exact nofun
    · rw [move, withTicket_last]
      exact setTicket_last gate (gate.refund hold reason) _
  obtain ⟨state, done, refunded⟩ := refunded
  have settled : (waiting state).isSettled := by
    simp [waiting, Ticket.isSettled, done]
  rw [ending, run_cons, polled, run_cons, refunded, run_cons, move,
    withTicket_last]
  simp only [settle, waiting] at settled ⊢
  rw [if_pos settled]
  rfl

theorem run_of_returned {outcome : AdmissionOutcome}
    (returned : ticket.stage = .over (some outcome))
    (refunds : ticket.refunds = []) :
    (Traffic.mk gate (before ++ [ticket])).run (ending before.length) =
      ⟨gate, before ++ [ticket]⟩ := by
  have polled : (Traffic.mk gate (before ++ [ticket])).move
      (.poll before.length) = ⟨gate, before ++ [ticket]⟩ := by
    rw [move, withTicket_last, poll, returned]
  have refunded : (Traffic.mk gate (before ++ [ticket])).move
      (.refund before.length 0) = ⟨gate, before ++ [ticket]⟩ := by
    rw [move, withTicket_last, Traffic.refund, refunds]
    rfl
  have settled : (Traffic.mk gate (before ++ [ticket])).move
      (.settle before.length) = ⟨gate, before ++ [ticket]⟩ := by
    rw [move, withTicket_last, settle, returned]
  rw [ending, run_cons, polled, run_cons, refunded, run_cons, settled, run_nil]

theorem run_of_absent {place : Nat} (absent : t.tickets.length ≤ place)
    (result : Except String String) :
    t.run (.askBreaker place :: .finish place result :: ending place) = t := by
  have none (step : Traffic → Nat → Ticket → Traffic) :
      t.withTicket place step = t := withTicket_of_absent absent step
  simp only [ending, run_cons, run_nil, move, none]

theorem askBreaker_of_past (past : ticket.stage ≠ .charged) :
    (Traffic.mk gate (before ++ [ticket])).move (.askBreaker before.length) =
      ⟨gate, before ++ [ticket]⟩ := by
  rw [move, withTicket_last, askBreaker]
  split
  · contradiction
  · rfl

theorem finish_of_past (past : ticket.stage ≠ .running)
    (result : Except String String) :
    (Traffic.mk gate (before ++ [ticket])).move (.finish before.length result) =
      ⟨gate, before ++ [ticket]⟩ := by
  rw [move, withTicket_last, finish]
  split
  · contradiction
  · rfl

theorem askBreaker_of_granted {later : Gate} (charged : ticket.stage = .charged)
    (granted : gate.attempt ticket.call = (none, later)) :
    (Traffic.mk gate (before ++ [ticket])).move (.askBreaker before.length) =
      ⟨later, before ++ [{ ticket with stage := .running }]⟩ := by
  rw [move, withTicket_last, askBreaker, charged, granted]
  exact setTicket_last gate later _

theorem askBreaker_of_refused {refusal : Refusal} {later : Gate}
    (charged : ticket.stage = .charged)
    (refused : gate.attempt ticket.call = (some refusal, later)) :
    (Traffic.mk gate (before ++ [ticket])).move (.askBreaker before.length) =
      ⟨later, before ++ [ticket.rollBack refusal.outcome]⟩ := by
  rw [move, withTicket_last, askBreaker, charged, refused]
  exact setTicket_last gate later _

theorem finish_of_ok {result : Except String String} {value : String}
    {later : Gate} (running : ticket.stage = .running)
    (done : gate.hear ticket.call result = (.ok value, later)) :
    (Traffic.mk gate (before ++ [ticket])).move (.finish before.length result) =
      ⟨later.conclude .admitted, before ++ [ticket.commit]⟩ := by
  rw [move, withTicket_last, finish, running, done]
  exact setTicket_last gate (later.conclude .admitted) _

theorem finish_of_error {result : Except String String} {refusal : Refusal}
    {later : Gate} (running : ticket.stage = .running)
    (failed : gate.hear ticket.call result = (.error refusal, later)) :
    (Traffic.mk gate (before ++ [ticket])).move (.finish before.length result) =
      ⟨later, before ++ [ticket.rollBack refusal.outcome]⟩ := by
  rw [move, withTicket_last, finish, running, failed]
  exact setTicket_last gate later _

/-! The gate's side -/

section

variable {g after : Gate} {tenant dependency : String} {cost : Float}
  {result : Except String String}

theorem admission_of_clockOverflow
    (stopped : g.charge tenant dependency cost = (.clockOverflow, after)) :
    (g.admission tenant dependency cost result).2 = after := by
  unfold Gate.admission Gate.admissionWith Gate.start
  rw [stopped]
  rfl

theorem admission_of_refused {refusal : Refusal}
    (refused : g.start tenant dependency cost = (.refused refusal, after)) :
    (g.admission tenant dependency cost result).2 = after := by
  unfold Gate.admission Gate.admissionWith
  rw [refused]
  rfl

theorem admission_of_running {call : Call}
    (running : g.start tenant dependency cost = (.running call, after)) :
    (g.admission tenant dependency cost result).2 =
      (after.finish call result).2 := by
  unfold Gate.admission Gate.admissionWith
  rw [running]
  rfl

end

/-! Charge by charge -/

section

variable {tenant dependency : String} {cost : Float}
  (result : Except String String)

theorem run_of_clockOverflow
    (stopped : t.gate.charge tenant dependency cost = (.clockOverflow, gate)) :
    (t.run (stepByStep t.tickets.length tenant dependency cost result)).gate =
      (t.gate.admission tenant dependency cost result).2 := by
  have arrived : t.move (.arrive tenant dependency cost) = { t with gate } := by
    rw [move, arrive, stopped]
  rw [stepByStep, run_cons, arrived, run_of_absent (Nat.le_refl _),
    admission_of_clockOverflow stopped]

theorem run_of_refused {refusal : Refusal}
    (refused : t.gate.charge tenant dependency cost =
      (.refused refusal, gate)) :
    (t.run (stepByStep t.tickets.length tenant dependency cost result)).gate =
      (t.gate.admission tenant dependency cost result).2 := by
  have arrived : t.move (.arrive tenant dependency cost) =
      { t with gate := gate.conclude refusal.outcome } := by
    rw [move, arrive, refused]
  have ended : t.gate.start tenant dependency cost = gate.refuse refusal := by
    rw [Gate.start, refused]
  rw [stepByStep, run_cons, arrived, run_of_absent (Nat.le_refl _),
    admission_of_refused ended]

theorem run_of_denied {hold : Hold} {refusal : Refusal}
    (denied : t.gate.charge tenant dependency cost =
      (.denied hold refusal, gate)) :
    (t.run (stepByStep t.tickets.length tenant dependency cost result)).gate =
      (t.gate.admission tenant dependency cost result).2 := by
  by_cases back : gate.ledger.budget.refundDenied
  · let ticket : Ticket := {
      hold, dependency, allowed := false
      stage := .settling refusal.outcome
      guard := .rollingBack refusal.outcome.name }
    have arrived : t.move (.arrive tenant dependency cost) =
        ⟨gate, t.tickets ++ [ticket]⟩ := by
      rw [move, arrive, denied]
      exact if_pos back
    have ended : t.gate.start tenant dependency cost =
        (gate.rollBack hold refusal).refuse refusal := by
      rw [Gate.start, denied]
      exact if_pos back
    have past : ticket.stage ≠ .charged ∧ ticket.stage ≠ .running :=
      ⟨nofun, nofun⟩
    rw [stepByStep, run_cons, arrived, run_cons, askBreaker_of_past past.1,
      run_cons, finish_of_past past.2, run_of_failed rfl rfl rfl,
      admission_of_refused ended]
    rfl
  · let ticket : Ticket := {
      hold, dependency, allowed := false
      stage := .over (some refusal.outcome), guard := .disarmed }
    have arrived : t.move (.arrive tenant dependency cost) =
        ⟨gate.conclude refusal.outcome, t.tickets ++ [ticket]⟩ := by
      rw [move, arrive, denied]
      exact if_neg back
    have ended : t.gate.start tenant dependency cost = gate.refuse refusal := by
      rw [Gate.start, denied]
      exact if_neg back
    have past : ticket.stage ≠ .charged ∧ ticket.stage ≠ .running :=
      ⟨nofun, nofun⟩
    rw [stepByStep, run_cons, arrived, run_cons, askBreaker_of_past past.1,
      run_cons, finish_of_past past.2, run_of_returned rfl rfl,
      admission_of_refused ended]

theorem run_of_held {hold : Hold}
    (held : t.gate.charge tenant dependency cost = (.held hold, gate)) :
    (t.run (stepByStep t.tickets.length tenant dependency cost result)).gate =
      (t.gate.admission tenant dependency cost result).2 := by
  let ticket : Ticket := {
    hold, dependency, allowed := true, stage := .charged, guard := .armed }
  have arrived : t.move (.arrive tenant dependency cost) =
      ⟨gate, t.tickets ++ [ticket]⟩ := by
    rw [move, arrive, held]
  have entered : t.gate.start tenant dependency cost =
      gate.enter ticket.call := by
    rw [Gate.start, held]
    rfl
  rw [stepByStep, run_cons, arrived, run_cons]
  rcases asked : gate.attempt ticket.call with ⟨_ | refusal, later⟩
  · let started : Ticket := { ticket with stage := .running }
    have began : (Traffic.mk gate (t.tickets ++ [ticket])).move
        (.askBreaker t.tickets.length) = ⟨later, t.tickets ++ [started]⟩ :=
      askBreaker_of_granted rfl asked
    have running : t.gate.start tenant dependency cost =
        (.running started.call, later) := by
      rw [entered, Gate.enter, asked]
      rfl
    rw [began, run_cons, admission_of_running running, Gate.finish]
    rcases heard : later.hear started.call result with ⟨refusal | value, done⟩
    · let failed : Ticket := started.rollBack refusal.outcome
      have told : (Traffic.mk later (t.tickets ++ [started])).move
          (.finish t.tickets.length result) = ⟨done, t.tickets ++ [failed]⟩ :=
        finish_of_error rfl heard
      rw [told, run_of_failed rfl rfl rfl]
      rfl
    · have told : (Traffic.mk later (t.tickets ++ [started])).move
          (.finish t.tickets.length result) =
            ⟨done.conclude .admitted, t.tickets ++ [started.commit]⟩ :=
        finish_of_ok rfl heard
      rw [told, run_of_returned rfl rfl]
  · let failed : Ticket := ticket.rollBack refusal.outcome
    have told : (Traffic.mk gate (t.tickets ++ [ticket])).move
        (.askBreaker t.tickets.length) = ⟨later, t.tickets ++ [failed]⟩ :=
      askBreaker_of_refused rfl asked
    have past : failed.stage ≠ .running := nofun
    have refused : t.gate.start tenant dependency cost =
        (later.rollBack hold refusal).refuse refusal := by
      rw [entered, Gate.enter, asked]
      rfl
    rw [told, run_cons, finish_of_past past, run_of_failed rfl rfl rfl,
      admission_of_refused refused]
    rfl

end

/-- Whatever becomes of an admission, step by step it becomes the same. -/
theorem run_stepByStep (t : Traffic) (tenant dependency : String) (cost : Float)
    (result : Except String String) :
    (t.run (stepByStep t.tickets.length tenant dependency cost result)).gate =
      (t.gate.admission tenant dependency cost result).2 := by
  rcases charged : t.gate.charge tenant dependency cost with ⟨charging, gate⟩
  cases charging with
  | clockOverflow => exact run_of_clockOverflow result charged
  | refused refusal => exact run_of_refused result charged
  | denied hold refusal => exact run_of_denied result charged
  | held hold => exact run_of_held result charged

end Tollgate.Traffic
