import Tollgate.Proofs.Gate.Facts

/-!
What happens at a gate when admissions run at once. It shows in what becomes of
the tickets, but for admissions that are refused before they are charged, which
leave none. The gate tells of just that.
-/

namespace Tollgate

def Move.befalls : Move → Bool
  | advance _ | setOutage _ | updateBudget _ => true
  | _ => false

def Charging.facts : Charging → List Fact
  | clockOverflow => [.overflowed]
  | refused refusal => [.completed refusal.outcome]
  | denied .. | held _ => []

namespace Ticket

def ending (t : Ticket) : List Fact :=
  match t.stage with
  | .over (some outcome) => [.completed outcome]
  | _ => []

def answers (t : Ticket) : Nat := t.refunds.countP (·.state = .answered)

def progress (old new : Ticket) : List Fact :=
  Fact.ofAttempt old.dependency
      (old.stage = .charged ∧ new.stage = .settling .breakerOpen) ++
    List.replicate (new.answers - old.answers) .refunded ++
    if old.stage = new.stage then [] else new.ending

def progressAll : List Ticket → List Ticket → List Fact
  | old :: olds, new :: news => old.progress new ++ progressAll olds news
  | [], news => news.flatMap ending
  | _ :: _, [] => []

theorem progress_of_stage {old new : Ticket} (stage : new.stage = old.stage) :
    old.progress new =
      List.replicate (new.answers - old.answers) .refunded := by
  have stays :
      ¬ (old.stage = .charged ∧ old.stage = .settling .breakerOpen) := by
    rintro ⟨charged, settling⟩
    rw [charged] at settling
    cases settling
  unfold progress
  rw [stage, if_pos rfl, decide_eq_false stays, List.append_nil]
  exact List.nil_append _

theorem progress_self (t : Ticket) : t.progress t = [] := by
  rw [progress_of_stage rfl, Nat.sub_self, List.replicate_zero]

theorem progressAll_self (tickets : List Ticket) :
    progressAll tickets tickets = [] := by
  induction tickets with
  | nil => rfl
  | cons head rest ih => simp [progressAll, progress_self, ih]

theorem progressAll_set {tickets : List Ticket} {i : Nat} {old : Ticket}
    (there : tickets[i]? = some old) (new : Ticket) :
    progressAll tickets (tickets.set i new) = old.progress new := by
  induction tickets generalizing i with
  | nil => cases there
  | cons head rest ih =>
      cases i with
      | zero =>
          cases there
          simp [progressAll, progressAll_self]
      | succ i => simp [progressAll, progress_self, ih there]

theorem progressAll_concat (tickets : List Ticket) (ticket : Ticket) :
    progressAll tickets (tickets ++ [ticket]) = ticket.ending := by
  induction tickets with
  | nil => simp [progressAll]
  | cons head rest ih => simp [progressAll, progress_self, ih]

theorem answers_startRefunds (t : Ticket) (reasons : List String) :
    (t.startRefunds reasons).answers = t.answers := by
  simp [answers, startRefunds]

theorem answers_setRefund {t : Ticket} {i : Nat} {reason : String}
    (there : t.refunds[i]? = some ⟨reason, .pending⟩) (state : RefundState) :
    (t.setRefund i state).answers =
      t.answers + if state = .answered then 1 else 0 := by
  unfold answers setRefund
  dsimp only
  generalize t.refunds = refunds at there ⊢
  induction refunds generalizing i with
  | nil => cases there
  | cons head rest ih =>
      cases i with
      | zero =>
          cases there
          cases state <;> simp [List.modify]
      | succ i =>
          have later := ih there
          rw [List.modify_succ_cons, List.countP_cons, List.countP_cons, later]
          omega

end Ticket

namespace Traffic

def unchargedFacts (t : Traffic) : Move → List Fact
  | .arrive tenant dependency cost =>
      (t.gate.charge tenant dependency cost).1.facts
  | _ => []

def facts (t : Traffic) (m : Move) : List Fact :=
  t.unchargedFacts m ++ Ticket.progressAll t.tickets (t.move m).tickets

def ChargesAmounts (t : Traffic) : Prop :=
  ∀ ticket ∈ t.tickets, isAmount ticket.hold.cost

/-- What a move of its own does: no ticket changes, or one goes on, or a new one
is charged; and the gate tells of it. -/
inductive Advances (t : Traffic) (uncharged : List Fact) : Traffic → Prop where
  | gate {gate : Gate} (speaks : t.gate.Speaks uncharged gate) :
      Advances t uncharged { t with gate }
  | ticket {gate : Gate} {i : Nat} {old new : Ticket} (none : uncharged = [])
      (there : t.tickets[i]? = some old) (hold : new.hold = old.hold)
      (speaks : t.gate.Speaks (old.progress new) gate) :
      Advances t uncharged ({ t with gate }.setTicket i new)
  | charged {gate : Gate} {ticket : Ticket} (none : uncharged = [])
      (accepted : isAmount ticket.hold.cost)
      (speaks : t.gate.Speaks ticket.ending gate) :
      Advances t uncharged ⟨gate, t.tickets ++ [ticket]⟩

namespace Advances

variable {t after : Traffic} {uncharged : List Fact}

theorem speaks (advances : t.Advances uncharged after) :
    t.gate.Speaks
      (uncharged ++ Ticket.progressAll t.tickets after.tickets)
      after.gate := by
  cases advances with
  | gate speaks =>
      rw [Ticket.progressAll_self, List.append_nil]
      exact speaks
  | ticket none there hold speaks =>
      rw [none, List.nil_append]
      exact (Ticket.progressAll_set there _).symm ▸ speaks
  | charged none accepted speaks =>
      rw [none, List.nil_append, Ticket.progressAll_concat]
      exact speaks

theorem chargesAmounts (advances : t.Advances uncharged after)
    (amounts : t.ChargesAmounts) : after.ChargesAmounts := by
  cases advances with
  | gate speaks => exact amounts
  | ticket none there hold speaks =>
      intro ticket member
      rcases List.mem_or_eq_of_mem_set member with before | rfl
      · exact amounts ticket before
      · rw [hold]
        exact amounts _ (List.mem_of_getElem? there)
  | charged none accepted speaks =>
      intro ticket member
      rcases List.mem_append.mp member with before | new
      · exact amounts ticket before
      · rw [List.mem_singleton.mp new]
        exact accepted

end Advances

/-! Move by move -/

variable {t : Traffic} {i : Nat} {ticket : Ticket}

theorem arrive_advances (t : Traffic) (tenant dependency : String)
    (cost : Float) :
    t.Advances (t.gate.charge tenant dependency cost).1.facts
      (t.arrive tenant dependency cost) := by
  have spoken := Gate.Speaks.charge t.gate tenant dependency cost
  have given := t.gate.charge_gives tenant dependency cost
  unfold Traffic.arrive
  generalize t.gate.charge tenant dependency cost = result at spoken given
  cases given with
  | invalid message rejected => exact .gate (spoken.completes _)
  | unavailable error accepted outage => exact .gate (spoken.completes _)
  | overflow store accepted reachable keeps => exact .gate spoken
  | charged answer store accepted reachable charged =>
      by_cases fits : answer.allowed
      · simp only [fits, if_true] at spoken ⊢
        exact .charged rfl accepted spoken
      · simp only [fits, Bool.false_eq_true, if_false] at spoken ⊢
        split
        · refine .charged rfl accepted ?_
          exact spoken
        · refine .charged rfl accepted ?_
          exact spoken.completes .budgetExceeded

theorem same_advances (t : Traffic) : t.Advances [] t := .gate .refl

theorem askBreaker_advances (there : t.tickets[i]? = some ticket) :
    t.Advances [] (t.askBreaker i ticket) := by
  have asked := Gate.Speaks.attempt t.gate ticket.call
  unfold Traffic.askBreaker
  split
  · rename_i stage
    split <;> rename_i attempted
    · rw [attempted] at asked
      refine .ticket rfl there rfl ?_
      simpa [Ticket.progress, Ticket.ending, Ticket.answers, Fact.ofAttempt,
        stage] using asked
    · have outcome := Gate.attempt_outcome attempted
      rw [attempted] at asked
      refine .ticket rfl there rfl ?_
      simpa [Ticket.progress, Ticket.ending, Ticket.answers, Ticket.rollBack,
        Ticket.call, Fact.ofAttempt, stage, outcome] using asked
  · exact same_advances t

theorem finish_advances (result : Except String String)
    (there : t.tickets[i]? = some ticket) :
    t.Advances [] (Traffic.finish result t i ticket) := by
  have heard := Gate.Speaks.hear t.gate ticket.call result
  unfold Traffic.finish
  split
  · rename_i stage
    split <;> rename_i ended <;> rw [ended] at heard
    · refine .ticket rfl there rfl ?_
      have ends := heard.completes .admitted
      simpa [Ticket.progress, Ticket.ending, Ticket.answers, Ticket.commit,
        Fact.ofAttempt, stage] using ends
    · refine .ticket rfl there rfl ?_
      simpa [Ticket.progress, Ticket.ending, Ticket.answers, Ticket.rollBack,
        Fact.ofAttempt, stage] using heard
  · exact same_advances t

theorem poll_advances (there : t.tickets[i]? = some ticket) :
    t.Advances [] (t.poll i ticket) := by
  unfold Traffic.poll
  split
  · have answers : ticket.poll.answers = ticket.answers :=
      Ticket.answers_startRefunds _ _
    have still : ticket.progress ticket.poll = [] := by
      have stage : ticket.poll.stage = ticket.stage := rfl
      rw [Ticket.progress_of_stage stage, answers, Nat.sub_self,
        List.replicate_zero]
    exact .ticket rfl there rfl (still ▸ .refl)
  · exact same_advances t

theorem settle_advances (there : t.tickets[i]? = some ticket) :
    t.Advances [] (t.settle i ticket) := by
  unfold Traffic.settle
  split
  · rename_i outcome stage
    split
    · refine .ticket rfl there rfl ?_
      have ends := Gate.Speaks.conclude t.gate outcome
      simpa [Ticket.progress, Ticket.ending, Ticket.answers, Fact.ofAttempt,
        stage] using ends
    · exact same_advances t
  · exact same_advances t

theorem cancel_advances (there : t.tickets[i]? = some ticket) :
    t.Advances [] (t.cancel i ticket) := by
  unfold Traffic.cancel
  split
  · exact same_advances t
  · have answers : ticket.cancel.answers = ticket.answers :=
      Ticket.answers_startRefunds _ _
    have still : ticket.progress ticket.cancel = [] := by
      unfold Ticket.progress
      rw [answers, Nat.sub_self]
      simp only [Ticket.ending, Ticket.cancel, Ticket.startRefunds,
        Fact.ofAttempt, reduceCtorEq, and_false, decide_false,
        Bool.false_eq_true, if_false, List.replicate_zero, List.append_nil]
      exact ite_self _
    exact .ticket rfl there rfl (still ▸ .refl)

theorem refund_advances (amounts : t.ChargesAmounts) (j : Nat)
    (there : t.tickets[i]? = some ticket) :
    t.Advances [] (Traffic.refund j t i ticket) := by
  unfold Traffic.refund
  split
  · rename_i reason begun
    have spoken := Gate.Speaks.refund t.gate ticket.hold reason
    have accepted := amounts ticket (List.mem_of_getElem? there)
    have progress (state : RefundState) :
        ticket.progress (ticket.setRefund j state) =
          if state = .answered then [.refunded] else [] := by
      have stage : (ticket.setRefund j state).stage = ticket.stage := rfl
      rw [Ticket.progress_of_stage stage, Ticket.answers_setRefund begun,
        Nat.add_sub_cancel_left]
      split <;> rfl
    refine .ticket rfl there rfl ?_
    rw [progress]
    unfold Gate.refundFacts at spoken
    rw [accepted] at spoken
    cases outage : t.gate.ledger.outage with
    | none => simpa [outage] using spoken
    | some error => simpa [outage] using spoken
  · exact same_advances t

theorem move_advances (amounts : t.ChargesAmounts) {m : Move}
    (own : m.befalls = false) :
    t.Advances (t.unchargedFacts m) (t.move m) := by
  have ticketed : ∀ i (step : Traffic → Nat → Ticket → Traffic),
      (∀ ticket, t.tickets[i]? = some ticket →
        t.Advances [] (step t i ticket)) →
      t.Advances [] (t.withTicket i step) := by
    intro i step each
    unfold withTicket
    split
    · exact each _ ‹_›
    · exact same_advances t
  cases m with
  | arrive tenant dependency cost =>
      exact arrive_advances t tenant dependency cost
  | askBreaker i => exact ticketed i _ fun _ => askBreaker_advances
  | finish i result => exact ticketed i _ fun _ => finish_advances result
  | poll i => exact ticketed i _ fun _ => poll_advances
  | refund i j => exact ticketed i _ fun _ => refund_advances amounts j
  | settle i => exact ticketed i _ fun _ => settle_advances
  | cancel i => exact ticketed i _ fun _ => cancel_advances
  | advance | setOutage | updateBudget => cases own
  | request request => exact .gate (.serve t.gate request)

/-- A move that befalls the gate changes no ticket and brings no facts about. -/
theorem move_undergoes (t : Traffic) {m : Move} (befalls : m.befalls) :
    t.facts m = [] ∧ (t.move m).tickets = t.tickets ∧
      t.gate.Undergoes (t.move m).gate := by
  have still := Ticket.progressAll_self t.tickets
  cases m with
  | advance => exact ⟨still, rfl, Nat.le_add_right _ _, rfl, .inl rfl⟩
  | setOutage => exact ⟨still, rfl, Nat.le_refl _, rfl, .inl rfl⟩
  | updateBudget => exact ⟨still, rfl, Nat.le_refl _, rfl, .inr ⟨_, _, rfl⟩⟩
  | _ => cases befalls

end Traffic

end Tollgate
