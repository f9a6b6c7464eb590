import Tollgate.Proofs.Traffic.Completion

/-!
Tenants are charged exactly for completed calls. While no total saturates and no
refund is lost, a tenant's total is what it was charged in its period less what
it got back; and each charge ends up kept or taken back once, as its admission
went.
-/

namespace Tollgate

namespace Ticket

variable {terms : Terms} {t : Ticket}

def timesRefunded (t : Ticket) : Nat :=
  t.refunds.countP (·.state = .answered)

/-- The charge is taken back just if the admission failed or was given up, and
then just once. -/
structure SettlesOnce (refundDenied : Bool) (t : Ticket) : Prop where
  few : t.refunds.length ≤ 1
  back : ∀ outcome, t.stage = .over (some outcome) →
    outcome.isTakenBack refundDenied → t.timesRefunded = 1
  kept : ∀ outcome, t.stage = .over (some outcome) →
    outcome.isTakenBack refundDenied = false → t.refunds = []
  cancelled : t.stage = .over none →
    t.refunds.length = 1 ∧ (t.isQuiet → t.timesRefunded = 1)

theorem keepsCharge_of_not_isTakenBack {outcome : AdmissionOutcome}
    {refundDenied : Bool} (stays : outcome.keepsCharge refundDenied) :
    outcome.isTakenBack refundDenied = false := by
  cases outcome with
  | admitted => rfl
  | budgetExceeded =>
      simpa [AdmissionOutcome.keepsCharge, AdmissionOutcome.isTakenBack]
        using stays
  | breakerOpen => cases stays
  | operationFailed => cases stays
  | invalidRequest => cases stays
  | ledgerUnavailable => cases stays

theorem answered_of_fair {refund : Refund} (fair : refund.IsFair terms)
    (reachable : terms.outages = false) (done : refund.state ≠ .pending) :
    refund.state = .answered := by
  cases state : refund.state with
  | pending => exact absurd state done
  | answered => rfl
  | lost =>
      have outages := fair state
      rw [reachable] at outages
      cases outages

theorem timesRefunded_of_answered {refund : Refund}
    (refunds : t.refunds = [refund]) (answered : refund.state = .answered) :
    t.timesRefunded = 1 := by
  simp [timesRefunded, refunds, answered]

theorem isRefunded_iff : t.isRefunded ↔ t.timesRefunded ≠ 0 := by
  simp [isRefunded, timesRefunded]

theorem Sound.settlesOnce (sound : t.Sound terms)
    (reachable : terms.outages = false) : t.SettlesOnce terms.refundDenied where
  few := sound.length_refunds_le
  back outcome stage back := by
    rcases sound.of_returned stage with
      ⟨-, refund, refunds, fair, done⟩ | ⟨stays, refunds⟩
    · exact timesRefunded_of_answered refunds
        (answered_of_fair fair reachable done)
    · rw [keepsCharge_of_not_isTakenBack stays] at back
      cases back
  kept outcome stage stays := by
    rcases sound.of_returned stage with
      ⟨back, refund, refunds, fair, done⟩ | ⟨-, refunds⟩
    · rw [stays] at back
      cases back
    · exact refunds
  cancelled stage := by
    obtain ⟨refund, refunds, fair⟩ := sound.of_cancelled stage
    refine ⟨by rw [refunds]; rfl, ?_⟩
    intro quiet
    have done : refund.state ≠ .pending := by
      simpa [isQuiet, stage, refunds] using quiet
    exact timesRefunded_of_answered refunds
      (answered_of_fair fair reachable done)

theorem stage_of_quiet (quiet : t.isQuiet) :
    ∃ outcome, t.stage = .over outcome := by
  rcases stage : t.stage with _ | _ | outcome | outcome
  · simp [isQuiet, stage] at quiet
  · simp [isQuiet, stage] at quiet
  · simp [isQuiet, stage] at quiet
  · exact ⟨outcome, rfl⟩

/-- Once nothing is left to happen, the charge stays just if the admission has
returned so that it does. -/
theorem Sound.isRefunded_of_quiet (sound : t.Sound terms)
    (reachable : terms.outages = false) (quiet : t.isQuiet) :
    (!t.isRefunded) = (decide (t.stage = .over (some .admitted)) ||
      !terms.refundDenied &&
        decide (t.stage = .over (some .budgetExceeded))) := by
  have once := sound.settlesOnce reachable
  have refunded : t.timesRefunded = 1 → t.isRefunded = true := by
    intro back
    exact isRefunded_iff.mpr (by omega)
  obtain ⟨outcome, stage⟩ := stage_of_quiet quiet
  rw [stage]
  cases outcome with
  | none =>
      have back := refunded ((once.cancelled stage).2 quiet)
      simp [back]
  | some outcome =>
      rcases sound.of_returned stage with ⟨back, -⟩ | ⟨stays, refunds⟩
      · rw [refunded (once.back outcome stage back)]
        cases outcome with
        | breakerOpen => simp
        | operationFailed => simp
        | budgetExceeded =>
            simp only [AdmissionOutcome.isTakenBack] at back
            simp [back]
        | admitted => cases back
        | invalidRequest => cases back
        | ledgerUnavailable => cases back
      · have standing : t.isRefunded = false := by simp [isRefunded, refunds]
        rw [standing]
        cases outcome with
        | admitted => simp
        | budgetExceeded =>
            simp only [AdmissionOutcome.keepsCharge] at stays
            simpa using stays
        | breakerOpen => cases stays
        | operationFailed => cases stays
        | invalidRequest => cases stays
        | ledgerUnavailable => cases stays

end Ticket

namespace Traffic

variable {terms : Terms} {t after : Traffic} {tenant : String}

/-- The tenant's total is what it was charged in its period less what it got
back, as long as its charges fit a word. -/
def Exact (t : Traffic) (tenant : String) : Prop :=
  ∀ e, t.gate.live? tenant = some e →
    t.charged tenant e.period ≤ Micros.greatest →
      e.total = t.unrefunded tenant e.period

theorem IsNew.exact (new : t.IsNew) (tenant : String) : t.Exact tenant := by
  intro e live
  rw [new.live?] at live
  cases live

theorem Sound.unrefunded_le_charged (sound : t.Sound terms) (tenant : String)
    (period : Nat) : t.unrefunded tenant period ≤ t.charged tenant period := by
  apply sound.sumOf_le
  intro ticket counts
  simp only [Bool.and_eq_true] at counts
  exact counts.1

theorem Exact.spent_eq (exactly : t.Exact tenant) (sound : t.Sound terms)
    {amount limit : Int} {answer : Charge} {store : SpendStore}
    (charged : t.gate.ledger.store.Charged t.gate.now
      (t.gate.ledger.keyFor tenant) amount limit answer store)
    (bounded : t.charged tenant answer.period ≤ Micros.greatest) :
    t.gate.spent tenant = t.unrefunded tenant answer.period := by
  cases live : t.gate.live? tenant with
  | some e =>
      have total : t.gate.spent tenant = e.total :=
        SpendStore.liveTotal_of_live live
      rw [charged.same e live] at bounded ⊢
      rw [total]
      exact exactly e live bounded
  | none =>
      have total : t.gate.spent tenant = 0 := SpendStore.liveTotal_of_none live
      rw [total]
      symm
      apply sound.sumOf_of_fresh (charged.fresh live)
      intro ticket counts
      simp only [Ticket.isOf, Bool.and_eq_true, decide_eq_true_eq] at counts
      exact counts.1.2

theorem Exact.effect (exactly : t.Exact tenant) (sound : t.Sound terms)
    (effect : Effect terms t after) : after.Exact tenant := by
  have later := effect.sound sound
  intro e live bounded
  cases effect with
  | kept gate tickets =>
      have same : after.unrefunded tenant e.period =
          t.unrefunded tenant e.period := by
        apply sumOf_continues tickets
        intro old new continues
        simp only [Ticket.isOf, continues.hold, continues.isRefunded]
      have all : after.charged tenant e.period = t.charged tenant e.period := by
        apply sumOf_continues tickets
        intro old new continues
        simp only [Ticket.isOf, continues.hold]
      rw [all] at bounded
      rw [same]
      exact exactly e (gate.live?_of_some sound.gate live) bounded
  | charged ticket answer accepted fine period allowed unrefunded tickets now
      obeys charged =>
      have all : after.charged tenant e.period =
          t.charged tenant e.period + _ := sumOf_append tickets
      have rest : after.unrefunded tenant e.period =
          t.unrefunded tenant e.period + _ := sumOf_append tickets
      rcases live?_of_charged sound.gate later.gate now charged live with
        ⟨different, before⟩ | ⟨rfl, total, current⟩
      · have other : ticket.isOf tenant e.period = false := by
          simp [Ticket.isOf, different]
        rw [Ticket.worth_of_false other, Int.add_zero] at all
        rw [Ticket.worth_of_false (by simp [other]), Int.add_zero] at rest
        rw [all] at bounded
        rw [rest]
        exact exactly e before bounded
      · have own : ticket.isOf ticket.hold.tenant e.period = true := by
          simp [Ticket.isOf, period, current]
        rw [Ticket.worth_of_true own] at all
        rw [Ticket.worth_of_true (by simp [own, unrefunded])] at rest
        have nonneg := Micros.ofAmount_nonneg accepted
        have part := sound.unrefunded_le_charged ticket.hold.tenant e.period
        have room := sound.store.liveTotal_nonneg t.gate.now
          (t.gate.ledger.keyFor ticket.hold.tenant)
        have spent := exactly.spent_eq sound charged
          (by rw [← current]; omega)
        rw [← current, Gate.spent] at spent
        -- All that was charged fits a word, and so nothing is cut off here.
        rw [total, charged.total, Micros.add_eq_of_nonneg room nonneg]
        omega
  | refunded i j ticket refund there begun pending tickets now obeys store =>
      have valid := sound.tickets ticket (List.mem_of_getElem? there)
      have all : after.charged tenant e.period = t.charged tenant e.period :=
        sumOf_setRefund there tickets rfl
      have rest : after.unrefunded tenant e.period =
          t.unrefunded tenant e.period - _ :=
        sumOf_refunded there begun tickets fun ticket gone => by simp [gone]
      rw [all] at bounded
      rcases live?_of_refunded sound.gate later.gate now store live with
        ⟨different, before⟩ | ⟨rfl, old, before, current, total⟩
      · have other : ticket.isOf tenant e.period = false := by
          simp [Ticket.isOf, different]
        rw [rest, Ticket.worth_of_false (by simp [other]), Int.sub_zero]
        exact exactly e before bounded
      · -- What is left of the tenant's charges is not below nothing, so the
        -- refund is taken off in full.
        have sum := exactly old before (by rw [← current]; exact bounded)
        have nonneg : 0 ≤ after.unrefunded ticket.hold.tenant e.period :=
          later.sumOf_nonneg
        have standing := valid.sound.not_isRefunded begun pending
        rw [current] at rest nonneg ⊢
        by_cases same : old.period = ticket.hold.period
        · have fits := (sound.store.live before).fits
          have counts : (ticket.isOf ticket.hold.tenant old.period &&
              !ticket.isRefunded) = true := by
            simp [Ticket.isOf, same, standing]
          rw [Ticket.worth_of_true counts] at rest
          rw [if_pos same, Micros.max_sub_of_nonneg
            (Micros.ofAmount_nonneg valid.accepted) fits] at total
          omega
        · have other : ticket.isOf ticket.hold.tenant old.period = false := by
            simp [Ticket.isOf, Ne.symm same]
          rw [Ticket.worth_of_false (by simp [other])] at rest
          rw [if_neg same] at total
          omega

theorem Exact.run (exactly : t.Exact tenant) (sound : t.Sound terms)
    {moves : List Move} (obey : ∀ m ∈ moves, m.Obeys terms) :
    (t.run moves).Exact tenant :=
  sound.run_invariant (·.Exact tenant) exactly
    (fun sound effect before => before.effect sound effect) obey

/-! Once nothing is left to happen -/

/-- What a tenant has not got back was charged for completed calls, or went past
its limit and stays. -/
theorem Sound.unrefunded_of_quiet (sound : t.Sound terms)
    (reachable : terms.outages = false) (quiet : t.isQuiet) (tenant : String)
    (period : Nat) :
    t.unrefunded tenant period = t.returned tenant period .admitted +
      if terms.refundDenied then 0
      else t.returned tenant period .budgetExceeded := by
  have ends : ∀ ticket ∈ t.tickets, (!ticket.isRefunded) =
      (decide (ticket.stage = .over (some .admitted)) || !terms.refundDenied &&
        decide (ticket.stage = .over (some .budgetExceeded))) := by
    intro ticket member
    have done : ticket.isQuiet := List.all_eq_true.mp quiet ticket member
    exact (sound.tickets ticket member).sound.isRefunded_of_quiet reachable done
  unfold unrefunded returned sumOf
  cases denied : terms.refundDenied with
  | true =>
      rw [if_pos rfl, Int.add_zero]
      apply Ticket.total_congr
      intro ticket member
      rw [ends ticket member, denied]
      simp
  | false =>
      rw [if_neg Bool.false_ne_true]
      apply Ticket.total_split
      intro ticket member
      simp only [Ticket.worth, ends ticket member, denied]
      by_cases own : ticket.isOf tenant period
      · by_cases admitted : ticket.stage = .over (some .admitted)
        · simp [own, admitted]
        · simp [own, admitted]
      · simp [own]

/-! Refunds that come late -/

theorem Sound.refund_of_ended (sound : t.Sound terms) {i : Nat} (j : Nat)
    {ticket : Ticket} (there : t.tickets[i]? = some ticket)
    (ended : ∀ e, t.gate.live? ticket.hold.tenant = some e →
      e.period ≠ ticket.hold.period) :
    (t.move (.refund i j)).gate.ledger.store = t.gate.ledger.store := by
  have accepted := (sound.tickets ticket (List.mem_of_getElem? there)).accepted
  have nothing : (t.gate.ledger.store.release t.gate.now
      (t.gate.ledger.keyFor ticket.hold.tenant)
      (Micros.ofAmount ticket.hold.cost) (some ticket.hold.period)).2 =
        t.gate.ledger.store := by
    cases live : t.gate.live? ticket.hold.tenant with
    | none => rw [SpendStore.release_of_none live]
    | some e =>
        have past : (some ticket.hold.period).all (· == e.period) = false := by
          simpa using Ne.symm (ended e live)
        rw [SpendStore.release_of_live live, past]
        rfl
  simp only [move, withTicket, there, Traffic.refund]
  split
  · rename_i reason begun
    cases outage : t.gate.ledger.outage with
    | some error =>
        rw [Gate.refund_of_outage _ reason accepted outage]
        rfl
    | none =>
        rw [Gate.refund_of_reachable _ reason accepted outage]
        exact nothing
  · rfl

/-- Tenants are charged exactly for completed calls. As long as charges fit a
word, a tenant's total is what it was charged and has not got back; in the end,
which can always be reached, that is what its completed calls cost, and its
denied ones if they stay. Each charge is taken back once or not at all, as its
admission went, and never off a later period. -/
theorem charges_only_completed_calls (terms : Terms)
    (reachable : terms.outages = false) {t : Traffic} (new : t.IsNew)
    (obeys : t.gate.Obeys terms) {moves : List Move}
    (obey : ∀ m ∈ moves, m.Obeys terms) :
    let after := t.run moves
    (∀ tenant e, after.gate.live? tenant = some e →
      after.charged tenant e.period ≤ Micros.greatest →
        e.total = after.unrefunded tenant e.period) ∧
    (after.isQuiet → ∀ tenant period,
      after.unrefunded tenant period =
        after.returned tenant period .admitted +
          if terms.refundDenied then 0
          else after.returned tenant period .budgetExceeded) ∧
    (∃ rest : List Move, (∀ m ∈ rest, m.Obeys terms) ∧
      (after.run rest).isQuiet) ∧
    (∀ ticket ∈ after.tickets, ticket.SettlesOnce terms.refundDenied) ∧
    (∀ i j ticket, after.tickets[i]? = some ticket →
      (∀ e, after.gate.live? ticket.hold.tenant = some e →
        e.period ≠ ticket.hold.period) →
      (after.move (.refund i j)).gate.ledger.store =
        after.gate.ledger.store) := by
  have start := new.sound obeys
  have sound := start.run obey
  refine ⟨?_, ?_, ?_, ?_, ?_⟩
  · intro tenant
    exact (new.exact tenant).run start obey
  · exact sound.unrefunded_of_quiet reachable
  · exact sound.exists_quiet
  · intro ticket member
    exact (sound.tickets ticket member).sound.settlesOnce reachable
  · intro i j ticket there
    exact sound.refund_of_ended j there

/-- One call completes and one is past the limit of 50. One is given up before
its breaker is asked; one fails and waits for its refund, one is given up before
the refund begins, and one while it runs. -/
def everyEnd : List Move := [
  .arrive "a" "b" 2, .arrive "a" "b" 1, .arrive "a" "b" 3, .arrive "a" "b" 4,
  .arrive "a" "b" 5, .arrive "a" "b" 60,
  .askBreaker 0, .finish 0 (.ok "done"),
  .cancel 1,
  .askBreaker 2, .finish 2 (.error "down"), .poll 2, .refund 2 0, .settle 2,
  .askBreaker 3, .finish 3 (.error "down"), .cancel 3,
  .askBreaker 4, .finish 4 (.error "down"), .poll 4, .cancel 4,
  .refund 4 0, .refund 1 0, .refund 3 0]

theorem charges_only_completed_calls_everyEnd :
    let t : Traffic := ⟨.ofSettings {}, []⟩
    let terms : Terms := ⟨"budget", false, false, fun _ => True⟩
    let after := t.run everyEnd
    t.IsNew ∧ t.gate.Obeys terms ∧ (∀ m ∈ everyEnd, m.Obeys terms) ∧
      after.isQuiet ∧ (after.gate.live? "a").isSome ∧
      ∀ e, after.gate.live? "a" = some e → e.period = 0 →
        e.total = 2000000 + 60000000 := by
  intro t terms after
  have new : t.IsNew := ⟨rfl, rfl⟩
  have obeys : t.gate.Obeys terms :=
    ⟨⟨rfl, rfl, fun _ => trivial⟩, fun _ => rfl⟩
  have obey : ∀ m ∈ everyEnd, m.Obeys terms := by
    simp [everyEnd, Move.Obeys]
  obtain ⟨exactly, settled, -⟩ :=
    charges_only_completed_calls terms rfl new obeys obey
  have quiet : after.isQuiet := by decide +kernel
  have fits : after.charged "a" 0 ≤ Micros.greatest := by decide +kernel
  have completed : after.returned "a" 0 .admitted = 2000000 := by decide +kernel
  have denied : after.returned "a" 0 .budgetExceeded = 60000000 := by
    decide +kernel
  refine ⟨new, obeys, obey, quiet, by decide +kernel, ?_⟩
  intro e live current
  have total := exactly "a" e live (by rw [current]; exact fits)
  have sum := settled quiet "a" 0
  rw [current] at total
  rw [total, sum, completed, denied]
  rfl

end Traffic

end Tollgate
