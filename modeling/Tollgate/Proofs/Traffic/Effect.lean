import Mathlib.Data.List.Forall2
import Tollgate.Proofs.Gate.Charge
import Tollgate.Proofs.Traffic.Ticket

/-!
What a move can do to money. It charges one admission, or takes one charge back,
or does neither. All that holds of every run is read off these three cases.
-/

namespace Tollgate

def Move.Obeys (terms : Terms) : Move → Prop
  | .updateBudget budget => budget.Obeys terms
  | .setOutage outage => terms.outages = false → outage = none
  | _ => True

/-- A ticket as moves leave it, under a store that gives out `nextPeriod`
next. -/
structure Ticket.Valid (terms : Terms) (nextPeriod : Nat) (ticket : Ticket) :
    Prop where
  sound : ticket.Sound terms
  accepted : isAmount ticket.hold.cost
  given : ticket.hold.period < nextPeriod

namespace Traffic

/-- What holds at all times of a run that keeps to the terms. -/
structure Sound (terms : Terms) (t : Traffic) : Prop where
  gate : t.gate.Obeys terms
  store : t.gate.ledger.store.Sound
  tickets : ∀ ticket ∈ t.tickets,
    ticket.Valid terms t.gate.ledger.store.nextPeriod

/-- What a move does to money. -/
inductive Effect (terms : Terms) (t after : Traffic) : Prop where
  | kept (gate : t.gate.Keeps terms after.gate)
      (tickets : List.Forall₂ (Ticket.Continues terms) t.tickets after.tickets)
  | charged (ticket : Ticket) (answer : Charge)
      (accepted : isAmount ticket.hold.cost)
      (sound : ticket.Sound terms)
      (period : ticket.hold.period = answer.period)
      (allowed : ticket.allowed = answer.allowed)
      (unrefunded : ticket.isRefunded = false)
      (tickets : after.tickets = t.tickets ++ [ticket])
      (now : after.gate.now = t.gate.now)
      (obeys : t.gate.Obeys terms → after.gate.Obeys terms)
      (charged : t.gate.ledger.store.Charged t.gate.now
        (t.gate.ledger.keyFor ticket.hold.tenant)
        (Micros.ofAmount ticket.hold.cost)
        (Micros.ofAmount (t.gate.ledger.limitFor ticket.hold.tenant))
        answer after.gate.ledger.store)
  | refunded (i j : Nat) (ticket : Ticket) (refund : Refund)
      (there : t.tickets[i]? = some ticket)
      (begun : ticket.refunds[j]? = some refund)
      (pending : refund.state = .pending)
      (tickets : after.tickets = t.tickets.set i (ticket.setRefund j .answered))
      (now : after.gate.now = t.gate.now)
      (obeys : t.gate.Obeys terms → after.gate.Obeys terms)
      (store : after.gate.ledger.store =
        (t.gate.ledger.store.release t.gate.now
          (t.gate.ledger.keyFor ticket.hold.tenant)
          (Micros.ofAmount ticket.hold.cost) (some ticket.hold.period)).2)

namespace Effect

variable {terms : Terms} {t after : Traffic}

theorem tickets_refl (tickets : List Ticket) :
    List.Forall₂ (Ticket.Continues terms) tickets tickets :=
  List.forall₂_same.mpr fun ticket _ => .refl ticket

theorem tickets_set {tickets : List Ticket} {i : Nat} {old new : Ticket}
    (there : tickets[i]? = some old) (continues : old.Continues terms new) :
    List.Forall₂ (Ticket.Continues terms) tickets (tickets.set i new) := by
  induction tickets generalizing i with
  | nil => exact .nil
  | cons head rest ih =>
      cases i with
      | zero =>
          cases there
          exact .cons continues (tickets_refl rest)
      | succ i => exact .cons (.refl head) (ih there)

theorem of_gate {gate : Gate} (keeps : t.gate.Keeps terms gate) :
    Effect terms t { t with gate } :=
  .kept keeps (tickets_refl t.tickets)

theorem of_ticket {gate : Gate} (keeps : t.gate.Keeps terms gate) {i : Nat}
    {old new : Ticket} (there : t.tickets[i]? = some old)
    (continues : old.Continues terms new) :
    Effect terms t ({ t with gate }.setTicket i new) :=
  .kept keeps (tickets_set there continues)

theorem same : Effect terms t t := of_gate (.refl t.gate)

/-! Move by move -/

theorem of_charge {ticket : Ticket} {answer : Charge} {store : SpendStore}
    {gate : Gate} (accepted : isAmount ticket.hold.cost)
    (charged : t.gate.ledger.store.Charged t.gate.now
      (t.gate.ledger.keyFor ticket.hold.tenant)
      (Micros.ofAmount ticket.hold.cost)
      (Micros.ofAmount (t.gate.ledger.limitFor ticket.hold.tenant))
      answer store)
    (books : (t.gate.withStore store).SameBooks gate)
    (period : ticket.hold.period = answer.period)
    (allowed : ticket.allowed = answer.allowed)
    (unrefunded : ticket.refunds = []) (fine : ticket.Sound terms) :
    Effect terms t ⟨gate, t.tickets ++ [ticket]⟩ := by
  have after : gate.ledger.store = store := by
    rw [books.ledger]
    rfl
  refine .charged ticket answer accepted fine period allowed ?_ rfl books.now
    ?_ ?_
  · simp [Ticket.isRefunded, unrefunded]
  · intro obeys
    have stored : (t.gate.withStore store).Obeys terms := { obeys with }
    exact (Gate.Keeps.of_sameBooks books).obeys stored
  · rw [after]
    exact charged

theorem arrive (sound : t.Sound terms) (tenant dependency : String)
    (cost : Float) : Effect terms t (t.arrive tenant dependency cost) := by
  have given := t.gate.charge_gives tenant dependency cost
  unfold Traffic.arrive
  generalize t.gate.charge tenant dependency cost = result at given
  cases given with
  | invalid message rejected => exact of_gate (.tell _ _)
  | unavailable error accepted outage =>
      exact of_gate ((Gate.Keeps.tell _ _).trans (.tell _ _))
  | overflow store accepted reachable keeps => exact of_gate (keeps terms)
  | charged answer store accepted reachable charged =>
      by_cases fits : answer.allowed
      · simp only [fits, if_true]
        refine of_charge accepted charged (.refl _) rfl fits.symm rfl ?_
        exact .underway (.inl rfl) rfl rfl (.inl rfl)
      · have denied : false = answer.allowed := by simpa using fits
        simp only [fits, Bool.false_eq_true, if_false]
        split
        · rename_i back
          refine of_charge accepted charged (.tell _ _) rfl denied rfl ?_
          have denies := sound.gate.budget.refundDenied.symm.trans back
          exact .failing .budgetExceeded _ rfl denies rfl rfl (.inr denies)
        · rename_i stays
          refine of_charge accepted charged ⟨rfl, rfl⟩ rfl denied rfl ?_
          refine .kept .budgetExceeded rfl ?_ rfl
          have kept : t.gate.ledger.budget.refundDenied = false := by
            simpa using stays
          rw [sound.gate.budget.refundDenied] at kept
          simp [AdmissionOutcome.keepsCharge, kept]

theorem askBreaker {i : Nat} {ticket : Ticket}
    (there : t.tickets[i]? = some ticket) :
    Effect terms t (t.askBreaker i ticket) := by
  have asked := Gate.SameBooks.attempt t.gate ticket.call
  unfold Traffic.askBreaker
  split
  · rename_i stage
    split
    · rename_i gate granted
      rw [granted] at asked
      exact of_ticket (.of_sameBooks asked) there (.run stage)
    · rename_i refusal gate refused
      rw [refused] at asked
      refine of_ticket (.of_sameBooks asked) there (.rollBack (.inl stage) ?_)
      rw [Gate.attempt_outcome refused]
      rfl
  · exact same

theorem finish (result : Except String String) {i : Nat} {ticket : Ticket}
    (there : t.tickets[i]? = some ticket) :
    Effect terms t (Traffic.finish result t i ticket) := by
  have heard := Gate.SameBooks.hear t.gate ticket.call result
  unfold Traffic.finish
  split
  · rename_i stage
    split
    · rename_i value gate done
      rw [done] at heard
      exact of_ticket (.of_sameBooks (heard.trans (.tell _ _))) there
        (.commit stage)
    · rename_i refusal gate failed
      rw [failed] at heard
      refine of_ticket (.of_sameBooks heard) there (.rollBack (.inr stage) ?_)
      rw [Gate.hear_outcome failed]
      rfl
  · exact same

theorem poll {i : Nat} {ticket : Ticket} (there : t.tickets[i]? = some ticket) :
    Effect terms t (t.poll i ticket) := by
  unfold Traffic.poll
  split
  · rename_i outcome stage
    exact of_ticket (.refl t.gate) there (.poll stage)
  · exact same

theorem settle {i : Nat} {ticket : Ticket}
    (there : t.tickets[i]? = some ticket) :
    Effect terms t (t.settle i ticket) := by
  unfold Traffic.settle
  split
  · rename_i outcome stage
    split
    · rename_i settled
      exact of_ticket (.tell _ _) there (.settle stage settled)
    · exact same
  · exact same

theorem cancel {i : Nat} {ticket : Ticket}
    (there : t.tickets[i]? = some ticket) :
    Effect terms t (t.cancel i ticket) := by
  unfold Traffic.cancel
  split
  · exact same
  · rename_i underway
    exact of_ticket (.refl t.gate) there (.cancel underway)

theorem refund (sound : t.Sound terms) {i : Nat} (j : Nat) {ticket : Ticket}
    (there : t.tickets[i]? = some ticket) :
    Effect terms t (Traffic.refund j t i ticket) := by
  have accepted := (sound.tickets ticket (List.mem_of_getElem? there)).accepted
  unfold Traffic.refund
  split
  · rename_i reason begun
    cases outage : t.gate.ledger.outage with
    | some error =>
        -- The terms allow for the outage, or there would be none.
        have outages : terms.outages = true := by
          by_contra none
          have reachable := sound.gate.reachable (by simpa using none)
          rw [outage] at reachable
          cases reachable
        rw [Gate.refund_of_outage _ reason accepted outage]
        exact of_ticket (.tell _ _) there (.lose begun rfl outages)
    | none =>
        rw [Gate.refund_of_reachable _ reason accepted outage]
        exact .refunded i j ticket ⟨reason, .pending⟩ there begun rfl rfl rfl
          (fun obeys => { obeys with }) rfl
  · exact same

end Effect

open Effect in
theorem move_effect {terms : Terms} {t : Traffic} (sound : t.Sound terms)
    {m : Move} (obeys : m.Obeys terms) : Effect terms t (t.move m) := by
  have ticketed : ∀ i (step : Traffic → Nat → Ticket → Traffic),
      (∀ ticket, t.tickets[i]? = some ticket →
        Effect terms t (step t i ticket)) →
      Effect terms t (t.withTicket i step) := by
    intro i step each
    unfold withTicket
    split
    · rename_i ticket there
      exact each ticket there
    · exact same
  cases m with
  | arrive tenant dependency cost => exact .arrive sound tenant dependency cost
  | askBreaker i => exact ticketed i _ fun _ => .askBreaker
  | finish i result => exact ticketed i _ fun _ => .finish result
  | poll i => exact ticketed i _ fun _ => .poll
  | refund i j => exact ticketed i _ fun _ => .refund sound j
  | settle i => exact ticketed i _ fun _ => .settle
  | cancel i => exact ticketed i _ fun _ => .cancel
  | advance duration => exact of_gate (.advance t.gate duration)
  | setOutage outage => exact of_gate (.setOutage t.gate obeys)
  | updateBudget budget => exact of_gate (.updateBudget t.gate obeys)
  | request request => exact of_gate (.serve t.gate request)

end Traffic

end Tollgate
