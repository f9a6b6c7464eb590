import Tollgate.Proofs.Session.Facts
import Tollgate.Proofs.Traffic.Facts

/-!
A gate in full use. The program that embeds it takes its steps, and besides, any
number of admissions run through the same gate at once, in any order. What
happens meanwhile is noted down as it shows in answers and tickets.
-/

namespace Tollgate

structure Plaza where
  session : Session
  tickets : List Ticket := []

inductive PlazaEvent where
  | step (step : Step)
  | move (m : Move)

def PlazaEvent.befalls : PlazaEvent → Bool
  | .step s => s.befalls
  | .move m => m.befalls

namespace Plaza

def ofSettings (settings : Settings) : Plaza where
  session := .ofSettings settings

def gate (p : Plaza) : Gate := p.session.gate

def traffic (p : Plaza) : Traffic := ⟨p.session.gate, p.tickets⟩

def facts (p : Plaza) : PlazaEvent → List Fact
  | .step step => p.session.facts step (p.session.step step).1
  | .move m => p.traffic.facts m

def next (p : Plaza) : PlazaEvent → Plaza
  | .step step => { p with session := (p.session.step step).2 }
  | .move m =>
      let t := p.traffic.move m
      { session := { p.session with gate := t.gate }, tickets := t.tickets }

def run (p : Plaza) : List PlazaEvent → List Fact × Plaza
  | [] => ([], p)
  | event :: rest =>
      let (later, last) := (p.next event).run rest
      (p.facts event ++ later, last)

theorem run_cons (p : Plaza) (event : PlazaEvent) (rest : List PlazaEvent) :
    p.run (event :: rest) =
      (p.facts event ++ ((p.next event).run rest).1,
        ((p.next event).run rest).2) := rfl

variable {p : Plaza} {event : PlazaEvent}

def ChargesAmounts (p : Plaza) : Prop := p.traffic.ChargesAmounts

theorem ChargesAmounts.next (amounts : p.ChargesAmounts) (event : PlazaEvent) :
    (p.next event).ChargesAmounts := by
  cases event with
  | step step => exact amounts
  | move m =>
      cases own : m.befalls with
      | false =>
          exact (Traffic.move_advances amounts own).chargesAmounts amounts
      | true =>
          obtain ⟨-, tickets, -⟩ := p.traffic.move_undergoes own
          intro ticket member
          exact amounts ticket (tickets ▸ member)

/-- What the gate does of its own accord it tells of. -/
theorem next_speaks (amounts : p.ChargesAmounts)
    (own : event.befalls = false) :
    p.gate.Speaks (p.facts event) (p.next event).gate := by
  cases event with
  | step step => exact p.session.step_speaks own
  | move m => exact (Traffic.move_advances amounts own).speaks

theorem next_undergoes (p : Plaza) (befalls : event.befalls) :
    p.facts event = [] ∧ p.gate.Undergoes (p.next event).gate := by
  cases event with
  | step step => exact p.session.step_undergoes befalls
  | move m =>
      obtain ⟨facts, -, undergoes⟩ := p.traffic.move_undergoes befalls
      exact ⟨facts, undergoes⟩

/-- What is so at the outset, and stays so whatever the gate tells of and
whatever befalls it, is so after every run. -/
theorem run_invariant {P : List Fact → Gate → Prop}
    (speaks : ∀ facts more g h, P facts g → g.Speaks more h →
      P (facts ++ more) h)
    (undergoes : ∀ facts g h, P facts g → g.Undergoes h → P facts h)
    (amounts : p.ChargesAmounts) (facts : List Fact) (holds : P facts p.gate)
    (events : List PlazaEvent) :
    P (facts ++ (p.run events).1) (p.run events).2.gate := by
  induction events generalizing p facts with
  | nil =>
      rw [run, List.append_nil]
      exact holds
  | cons event rest ih =>
      rw [run_cons, ← List.append_assoc]
      refine ih (amounts.next event) _ ?_
      cases own : event.befalls with
      | false => exact speaks _ _ _ _ holds (next_speaks amounts own)
      | true =>
          obtain ⟨none, befallen⟩ := p.next_undergoes own
          rw [none, List.append_nil]
          exact undergoes _ _ _ holds befallen

end Plaza

end Tollgate
