import Tollgate.Proofs.Traffic.Books

/-!
Nothing gets stuck. From every state that a run comes to there is a way on to
one where no admission is under way and no refund is pending.
-/

namespace Tollgate.Traffic

variable {terms : Terms} {t : Traffic} {i : Nat} {ticket : Ticket}

/-- What ends an admission at any stage, and its refund with it. -/
def wrapUp (i : Nat) : List Move := [.cancel i, .refund i 0]

theorem wrapUp_obey : ∀ m ∈ wrapUp i, m.Obeys terms := by
  simp [wrapUp, Move.Obeys]

theorem set_of_there {tickets : List Ticket}
    (there : tickets[i]? = some ticket) :
    tickets.set i ticket = tickets := by
  obtain ⟨inside, same⟩ := List.getElem?_eq_some_iff.mp there
  rw [← same, List.set_getElem_self]

theorem cancel_ends (there : t.tickets[i]? = some ticket) :
    ∃ next outcome, (t.move (.cancel i)).tickets = t.tickets.set i next ∧
      next.stage = .over outcome := by
  simp only [move, withTicket, there, cancel]
  split
  · rename_i outcome stage
    exact ⟨ticket, outcome, (set_of_there there).symm, stage⟩
  · exact ⟨ticket.cancel, none, rfl, rfl⟩

theorem refund_quiets (sound : t.Sound terms)
    (there : t.tickets[i]? = some ticket) {outcome : Option AdmissionOutcome}
    (ended : ticket.stage = .over outcome) :
    ∃ next, (t.move (.refund i 0)).tickets = t.tickets.set i next ∧
      next.isQuiet := by
  have valid := sound.tickets ticket (List.mem_of_getElem? there)
  simp only [move, withTicket, there, Traffic.refund]
  split
  · rename_i reason begun
    obtain ⟨-, only⟩ := valid.sound.refunds_eq begun
    refine ⟨_, rfl, ?_⟩
    simp only [Ticket.isQuiet, Ticket.setRefund, ended, only]
    cases t.gate.ledger.outage with
    | none => rfl
    | some error => rfl
  · rename_i settled
    refine ⟨ticket, (set_of_there there).symm, ?_⟩
    cases refunds : ticket.refunds with
    | nil => simp [Ticket.isQuiet, ended, refunds]
    | cons refund rest =>
        have begun : ticket.refunds[0]? = some refund := by rw [refunds]; rfl
        obtain ⟨-, only⟩ := valid.sound.refunds_eq begun
        have done : refund.state ≠ .pending := by
          intro pending
          apply settled refund.reason
          rw [begun, ← pending]
        simp [Ticket.isQuiet, ended, only, done]

theorem wrapUp_quiets (sound : t.Sound terms)
    (there : t.tickets[i]? = some ticket) :
    ∃ next, (t.run (wrapUp i)).tickets = t.tickets.set i next ∧
      next.isQuiet := by
  obtain ⟨ended, outcome, first, stage⟩ := cancel_ends there
  have obeys : Move.Obeys terms (.cancel i) := trivial
  have later := (move_effect sound obeys).sound sound
  have kept : (t.move (.cancel i)).tickets[i]? = some ended := by
    obtain ⟨inside, -⟩ := List.getElem?_eq_some_iff.mp there
    rw [first, List.getElem?_set_self inside]
  obtain ⟨next, second, quiet⟩ := refund_quiets later kept stage
  refine ⟨next, ?_, quiet⟩
  rw [wrapUp, run_cons, run_cons, run_nil, second, first, List.set_set]

theorem exists_quiet_below (sound : t.Sound terms) (bound : Nat) :
    ∃ moves : List Move, (∀ m ∈ moves, m.Obeys terms) ∧
      (t.run moves).tickets.length = t.tickets.length ∧
      ∀ i ticket, i < bound → (t.run moves).tickets[i]? = some ticket →
        ticket.isQuiet := by
  -- The tickets below the bound stay as they are while the next is wrapped up.
  induction bound with
  | zero => exact ⟨[], nofun, rfl, nofun⟩
  | succ bound ih =>
      obtain ⟨moves, obey, length, quiet⟩ := ih
      cases there : (t.run moves).tickets[bound]? with
      | none =>
          refine ⟨moves, obey, length, ?_⟩
          intro i ticket below found
          have earlier : i ≠ bound := by
            rintro rfl
            rw [there] at found
            cases found
          exact quiet i ticket (by omega) found
      | some last =>
          obtain ⟨next, tickets, settled⟩ :=
            wrapUp_quiets (sound.run obey) there
          refine ⟨moves ++ wrapUp bound, ?_, ?_, ?_⟩
          · intro m member
            rcases List.mem_append.mp member with before | after
            · exact obey m before
            · exact wrapUp_obey m after
          · rw [run_append, tickets, List.length_set, length]
          · intro i ticket below found
            rw [run_append, tickets, List.getElem?_set] at found
            split at found
            · split at found
              · cases found
                exact settled
              · cases found
            · exact quiet i ticket (by omega) found

theorem Sound.exists_quiet (sound : t.Sound terms) :
    ∃ moves : List Move, (∀ m ∈ moves, m.Obeys terms) ∧
      (t.run moves).isQuiet := by
  obtain ⟨moves, obey, length, quiet⟩ :=
    exists_quiet_below sound t.tickets.length
  refine ⟨moves, obey, ?_⟩
  apply List.all_eq_true.mpr
  intro ticket member
  obtain ⟨i, found⟩ := List.mem_iff_getElem?.mp member
  obtain ⟨inside, -⟩ := List.getElem?_eq_some_iff.mp found
  exact quiet i ticket (by omega) found

end Tollgate.Traffic
