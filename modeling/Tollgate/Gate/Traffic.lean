import Tollgate.Admin.Handler
import Tollgate.Gate.Admission

/-!
Many admissions at once. Each goes its way stage by stage, and between any two
stages of one the others may take theirs, time may pass, the store may go out of
reach, and settings may change. A caller may give up at any moment. Refunds run
on their own, as late as they like.
-/

namespace Tollgate

/-- The guard over the charge of an admission. Unless it is disarmed, the charge
is taken back when it goes. -/
inductive Guard where
  | armed
  /-- Asked to take the charge back, which has not begun. -/
  | rollingBack (reason : String)
  | disarmed
deriving DecidableEq

namespace Guard

def rollBack (reason : String) : Guard → Guard
  | armed => rollingBack reason
  | guard => guard

def poll : Guard → Guard × List String
  | rollingBack reason => (disarmed, [reason])
  | guard => (guard, [])

def drop : Guard → List String
  | disarmed => []
  | armed | rollingBack _ => ["cancelled"]

end Guard

inductive RefundState where
  | pending
  | answered
  | lost
deriving DecidableEq

structure Refund where
  reason : String
  state : RefundState := .pending
deriving DecidableEq

/-- How far an admission that was charged has come. -/
inductive Stage where
  /-- Charged within the limit; the breaker has not been asked. -/
  | charged
  | running
  /-- It has failed, and waits for its charge to be taken back. -/
  | settling (outcome : AdmissionOutcome)
  /-- It has returned, or its caller has given up. -/
  | over (outcome : Option AdmissionOutcome)
deriving DecidableEq

structure Ticket where
  hold : Hold
  dependency : String
  allowed : Bool
  stage : Stage
  guard : Guard
  refunds : List Refund := []

namespace Ticket

def call (t : Ticket) : Call := ⟨t.hold, t.dependency⟩

def startRefunds (t : Ticket) (reasons : List String) : Ticket :=
  { t with refunds := t.refunds ++ reasons.map fun reason => { reason } }

def rollBack (t : Ticket) (outcome : AdmissionOutcome) : Ticket :=
  { t with
    stage := .settling outcome
    guard := t.guard.rollBack outcome.name }

def commit (t : Ticket) : Ticket :=
  { t with stage := .over (some .admitted), guard := .disarmed }

def poll (t : Ticket) : Ticket :=
  { t with guard := t.guard.poll.1 }.startRefunds t.guard.poll.2

def cancel (t : Ticket) : Ticket :=
  { t with stage := .over none, guard := .disarmed }.startRefunds t.guard.drop

def setRefund (t : Ticket) (i : Nat) (state : RefundState) : Ticket :=
  { t with refunds := t.refunds.modify i ({ · with state }) }

def isSettled (t : Ticket) : Bool :=
  t.guard = .disarmed && t.refunds.all (·.state ≠ .pending)

def isRefunded (t : Ticket) : Bool :=
  t.refunds.any (·.state = .answered)

def isQuiet (t : Ticket) : Bool :=
  (t.stage matches .over _) && t.refunds.all (·.state ≠ .pending)

end Ticket

structure Traffic where
  gate : Gate
  /-- All admissions so far that were charged, oldest first. -/
  tickets : List Ticket := []

/-- One step of anything. A ticket is named by its place in the list, and so is
a refund of a ticket. -/
inductive Move where
  | arrive (tenant dependency : String) (cost : Float)
  | askBreaker (ticket : Nat)
  | finish (ticket : Nat) (result : Except String String)
  | poll (ticket : Nat)
  | refund (ticket refund : Nat)
  | settle (ticket : Nat)
  /-- The caller gives up, at whatever stage. -/
  | cancel (ticket : Nat)
  | advance (duration : Nat)
  | setOutage (error : Option StoreError)
  | updateBudget (budget : BudgetSettings)
  | request (request : Request)

namespace Traffic

def setTicket (t : Traffic) (i : Nat) (ticket : Ticket) : Traffic :=
  { t with tickets := t.tickets.set i ticket }

/-- The charge of a new admission. What was not charged leaves no ticket. -/
def arrive (t : Traffic) (tenant dependency : String) (cost : Float) :
    Traffic :=
  match t.gate.charge tenant dependency cost with
  | (.clockOverflow, gate) => { t with gate }
  | (.refused refusal, gate) => { t with gate := gate.conclude refusal.outcome }
  | (.denied hold refusal, gate) =>
      if gate.ledger.budget.refundDenied then
        ⟨gate, t.tickets ++ [{
          hold, dependency, allowed := false
          stage := .settling refusal.outcome
          guard := .rollingBack refusal.outcome.name }]⟩
      else
        ⟨gate.conclude refusal.outcome, t.tickets ++ [{
          hold, dependency, allowed := false
          stage := .over (some refusal.outcome), guard := .disarmed }]⟩
  | (.held hold, gate) =>
      ⟨gate, t.tickets ++ [{
        hold, dependency, allowed := true
        stage := .charged, guard := .armed }]⟩

def askBreaker (t : Traffic) (i : Nat) (ticket : Ticket) : Traffic :=
  match ticket.stage with
  | .charged =>
      match t.gate.attempt ticket.call with
      | (none, gate) =>
          { t with gate }.setTicket i { ticket with stage := .running }
      | (some refusal, gate) =>
          { t with gate }.setTicket i (ticket.rollBack refusal.outcome)
  | _ => t

def finish (result : Except String String) (t : Traffic) (i : Nat)
    (ticket : Ticket) : Traffic :=
  match ticket.stage with
  | .running =>
      match t.gate.hear ticket.call result with
      | (.ok _, gate) =>
          { t with gate := gate.conclude .admitted }.setTicket i ticket.commit
      | (.error refusal, gate) =>
          { t with gate }.setTicket i (ticket.rollBack refusal.outcome)
  | _ => t

def poll (t : Traffic) (i : Nat) (ticket : Ticket) : Traffic :=
  match ticket.stage with
  | .settling _ => t.setTicket i ticket.poll
  | _ => t

/-- A refund runs. One made while the store is out of reach is lost. -/
def refund (refund : Nat) (t : Traffic) (i : Nat) (ticket : Ticket) : Traffic :=
  match ticket.refunds[refund]? with
  | some ⟨reason, .pending⟩ =>
      let state : RefundState :=
        if t.gate.ledger.outage.isNone then .answered else .lost
      { t with gate := t.gate.refund ticket.hold reason }.setTicket i
        (ticket.setRefund refund state)
  | _ => t

def settle (t : Traffic) (i : Nat) (ticket : Ticket) : Traffic :=
  match ticket.stage with
  | .settling outcome =>
      if ticket.isSettled then
        { t with gate := t.gate.conclude outcome }.setTicket i
          { ticket with stage := .over (some outcome) }
      else t
  | _ => t

def cancel (t : Traffic) (i : Nat) (ticket : Ticket) : Traffic :=
  match ticket.stage with
  | .over _ => t
  | _ => t.setTicket i ticket.cancel

def withTicket (t : Traffic) (i : Nat)
    (step : Traffic → Nat → Ticket → Traffic) : Traffic :=
  match t.tickets[i]? with
  | some ticket => step t i ticket
  | none => t

def move (t : Traffic) : Move → Traffic
  | .arrive tenant dependency cost => t.arrive tenant dependency cost
  | .askBreaker i => t.withTicket i askBreaker
  | .finish i result => t.withTicket i (finish result)
  | .poll i => t.withTicket i poll
  | .refund i j => t.withTicket i (refund j)
  | .settle i => t.withTicket i settle
  | .cancel i => t.withTicket i cancel
  | .advance duration => { t with gate := t.gate.advance duration }
  | .setOutage outage =>
      let ledger := { t.gate.ledger with outage }
      { t with gate := { t.gate with ledger } }
  | .updateBudget budget => { t with gate := t.gate.updateBudget budget }
  | .request request => { t with gate := (t.gate.serve request).2 }

def run (t : Traffic) (moves : List Move) : Traffic :=
  moves.foldl move t

end Traffic

namespace Ticket

def isOf (t : Ticket) (tenant : String) (period : Nat) : Bool :=
  t.hold.tenant = tenant && t.hold.period = period

def worth (test : Ticket → Bool) (t : Ticket) : Int :=
  if test t then Micros.ofAmount t.hold.cost else 0

def total (test : Ticket → Bool) : List Ticket → Int
  | [] => 0
  | ticket :: rest => ticket.worth test + total test rest

end Ticket

namespace Traffic

def sumOf (t : Traffic) (test : Ticket → Bool) : Int :=
  Ticket.total test t.tickets

def charged (t : Traffic) (tenant : String) (period : Nat) : Int :=
  t.sumOf fun ticket => ticket.isOf tenant period

/-- What a tenant was charged in a period and has not got back. -/
def unrefunded (t : Traffic) (tenant : String) (period : Nat) : Int :=
  t.sumOf fun ticket => ticket.isOf tenant period && !ticket.isRefunded

/-- What a tenant was charged within its limit in a period and has not got
back. -/
def outstanding (t : Traffic) (tenant : String) (period : Nat) : Int :=
  t.sumOf fun ticket =>
    ticket.isOf tenant period && ticket.allowed && !ticket.isRefunded

/-- What a tenant was charged in a period for admissions that returned so. -/
def returned (t : Traffic) (tenant : String) (period : Nat)
    (outcome : AdmissionOutcome) : Int :=
  t.sumOf fun ticket =>
    ticket.isOf tenant period && ticket.stage = .over (some outcome)

/-- No admission is under way, and no refund is still to run. -/
def isQuiet (t : Traffic) : Bool :=
  t.tickets.all (·.isQuiet)

end Traffic

end Tollgate
