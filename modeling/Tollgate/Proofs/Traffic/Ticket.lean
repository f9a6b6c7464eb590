import Mathlib.Data.List.Basic
import Tollgate.Gate.Traffic
import Tollgate.Proofs.Gate.Frame

/-!
The life of an admission: which refunds it has at each stage. However it ends,
its charge is taken back at most once.
-/

namespace Tollgate

def AdmissionOutcome.isTakenBack (refundDenied : Bool) : AdmissionOutcome → Bool
  | .breakerOpen | .operationFailed => true
  | .budgetExceeded => refundDenied
  | .admitted | .invalidRequest | .ledgerUnavailable => false

def AdmissionOutcome.keepsCharge (refundDenied : Bool) : AdmissionOutcome → Bool
  | .admitted => true
  | .budgetExceeded => !refundDenied
  | .breakerOpen | .operationFailed | .invalidRequest | .ledgerUnavailable =>
      false

/-- A refund is lost in an outage only. -/
def Refund.IsFair (terms : Terms) (refund : Refund) : Prop :=
  refund.state = .lost → terms.outages = true

namespace Ticket

def MayBeRefunded (terms : Terms) (t : Ticket) : Prop :=
  t.allowed = true ∨ terms.refundDenied = true

/-- The stages of an admission with the guard and the refunds it has there. -/
inductive Sound (terms : Terms) (t : Ticket) : Prop where
  | underway (stage : t.stage = .charged ∨ t.stage = .running)
      (guard : t.guard = .armed) (refunds : t.refunds = [])
      (fit : t.MayBeRefunded terms)
  | failing (outcome : AdmissionOutcome) (reason : String)
      (stage : t.stage = .settling outcome)
      (back : outcome.isTakenBack terms.refundDenied)
      (guard : t.guard = .rollingBack reason) (refunds : t.refunds = [])
      (fit : t.MayBeRefunded terms)
  | settling (outcome : AdmissionOutcome) (refund : Refund)
      (stage : t.stage = .settling outcome)
      (back : outcome.isTakenBack terms.refundDenied)
      (guard : t.guard = .disarmed) (refunds : t.refunds = [refund])
      (fit : t.MayBeRefunded terms) (fair : refund.IsFair terms)
  | refunded (outcome : AdmissionOutcome) (refund : Refund)
      (stage : t.stage = .over (some outcome))
      (back : outcome.isTakenBack terms.refundDenied)
      (refunds : t.refunds = [refund]) (fit : t.MayBeRefunded terms)
      (fair : refund.IsFair terms) (done : refund.state ≠ .pending)
  | kept (outcome : AdmissionOutcome) (stage : t.stage = .over (some outcome))
      (stays : outcome.keepsCharge terms.refundDenied)
      (refunds : t.refunds = [])
  | cancelled (refund : Refund) (stage : t.stage = .over none)
      (refunds : t.refunds = [refund]) (fit : t.MayBeRefunded terms)
      (fair : refund.IsFair terms)

variable {terms : Terms} {t : Ticket}

theorem Sound.length_refunds_le (sound : t.Sound terms) :
    t.refunds.length ≤ 1 := by
  cases sound with
  | underway stage guard refunds => simp [refunds]
  | failing outcome reason stage back guard refunds => simp [refunds]
  | settling outcome refund stage back guard refunds => simp [refunds]
  | refunded outcome refund stage back refunds => simp [refunds]
  | kept outcome stage stays refunds => simp [refunds]
  | cancelled refund stage refunds => simp [refunds]

theorem Sound.mayBeRefunded (sound : t.Sound terms) (begins : t.refunds ≠ []) :
    t.MayBeRefunded terms := by
  cases sound with
  | underway stage guard refunds fit => exact fit
  | failing outcome reason stage back guard refunds fit => exact fit
  | settling outcome refund stage back guard refunds fit => exact fit
  | refunded outcome refund stage back refunds fit => exact fit
  | kept outcome stage stays refunds => exact absurd refunds begins
  | cancelled refund stage refunds fit => exact fit

theorem Sound.refunds_eq (sound : t.Sound terms) {i : Nat}
    {refund : Refund} (there : t.refunds[i]? = some refund) :
    i = 0 ∧ t.refunds = [refund] := by
  have few := sound.length_refunds_le
  obtain ⟨inside, same⟩ := List.getElem?_eq_some_iff.mp there
  obtain rfl : i = 0 := by omega
  refine ⟨rfl, ?_⟩
  have one : t.refunds.length = 1 := by omega
  obtain ⟨only, refunds⟩ := List.length_eq_one_iff.mp one
  simp only [refunds, List.getElem_cons_zero] at same
  rw [refunds, same]

theorem Sound.of_underway (sound : t.Sound terms)
    (underway : t.stage = .charged ∨ t.stage = .running) :
    t.guard = .armed ∧ t.refunds = [] ∧ t.MayBeRefunded terms := by
  cases sound with
  | underway stage guard refunds fit => exact ⟨guard, refunds, fit⟩
  | failing outcome reason stage => simp [stage] at underway
  | settling outcome refund stage => simp [stage] at underway
  | refunded outcome refund stage => simp [stage] at underway
  | kept outcome stage => simp [stage] at underway
  | cancelled refund stage => simp [stage] at underway

theorem Sound.of_settling (sound : t.Sound terms)
    {outcome : AdmissionOutcome} (failed : t.stage = .settling outcome) :
    outcome.isTakenBack terms.refundDenied ∧ t.MayBeRefunded terms ∧
      ((∃ reason, t.guard = .rollingBack reason ∧ t.refunds = []) ∨
        t.guard = .disarmed ∧ ∃ refund, t.refunds = [refund] ∧
          refund.IsFair terms) := by
  cases sound with
  | underway stage => simp [failed] at stage
  | failing other reason stage back guard refunds fit =>
      rw [failed] at stage
      cases stage
      exact ⟨back, fit, .inl ⟨reason, guard, refunds⟩⟩
  | settling other refund stage back guard refunds fit fair =>
      rw [failed] at stage
      cases stage
      exact ⟨back, fit, .inr ⟨guard, refund, refunds, fair⟩⟩
  | refunded other refund stage => simp [failed] at stage
  | kept other stage => simp [failed] at stage
  | cancelled refund stage => simp [failed] at stage

theorem Sound.of_returned (sound : t.Sound terms) {outcome : AdmissionOutcome}
    (returned : t.stage = .over (some outcome)) :
    (outcome.isTakenBack terms.refundDenied ∧
      ∃ refund, t.refunds = [refund] ∧ refund.IsFair terms ∧
        refund.state ≠ .pending) ∨
      outcome.keepsCharge terms.refundDenied ∧ t.refunds = [] := by
  cases sound with
  | underway stage => simp [returned] at stage
  | failing other reason stage => simp [returned] at stage
  | settling other refund stage => simp [returned] at stage
  | refunded other refund stage back refunds fit fair done =>
      rw [returned] at stage
      cases stage
      exact .inl ⟨back, refund, refunds, fair, done⟩
  | kept other stage stays refunds =>
      rw [returned] at stage
      cases stage
      exact .inr ⟨stays, refunds⟩
  | cancelled refund stage => simp [returned] at stage

theorem Sound.of_cancelled (sound : t.Sound terms)
    (cancelled : t.stage = .over none) :
    ∃ refund, t.refunds = [refund] ∧ refund.IsFair terms := by
  cases sound with
  | underway stage => simp [cancelled] at stage
  | failing other reason stage => simp [cancelled] at stage
  | settling other refund stage => simp [cancelled] at stage
  | refunded other refund stage => simp [cancelled] at stage
  | kept other stage => simp [cancelled] at stage
  | cancelled refund stage refunds fit fair => exact ⟨refund, refunds, fair⟩

theorem Sound.setRefund (sound : t.Sound terms) {i : Nat}
    {refund : Refund} (there : t.refunds[i]? = some refund)
    (pending : refund.state = .pending) {state : RefundState}
    (fair : state = .lost → terms.outages = true) :
    (t.setRefund i state).Sound terms := by
  obtain ⟨rfl, only⟩ := sound.refunds_eq there
  have after : (t.setRefund 0 state).refunds = [{ refund with state }] := by
    simp [Ticket.setRefund, only]
  cases sound with
  | underway stage guard refunds =>
      rw [refunds] at only
      cases only
  | failing outcome reason stage back guard refunds =>
      rw [refunds] at only
      cases only
  | settling outcome before stage back guard refunds fit =>
      exact .settling outcome _ stage back guard after fit fair
  | refunded outcome before stage back refunds fit old done =>
      rw [refunds] at only
      cases only
      exact absurd pending done
  | kept outcome stage stays refunds =>
      rw [refunds] at only
      cases only
  | cancelled before stage refunds fit =>
      exact .cancelled _ stage after fit fair

/-! Steps that move no money -/

/-- A step of an admission that leaves its charge as it is: taken back, if it
was before, and not otherwise. -/
structure Continues (terms : Terms) (old new : Ticket) : Prop where
  hold : new.hold = old.hold
  allowed : new.allowed = old.allowed
  isRefunded : new.isRefunded = old.isRefunded
  sound : old.Sound terms → new.Sound terms

namespace Continues

theorem refl (t : Ticket) : t.Continues terms t := ⟨rfl, rfl, rfl, id⟩

theorem run (charged : t.stage = .charged) :
    t.Continues terms { t with stage := .running } where
  hold := rfl
  allowed := rfl
  isRefunded := rfl
  sound sound := by
    obtain ⟨guard, refunds, fit⟩ := sound.of_underway (.inl charged)
    exact .underway (.inr rfl) guard refunds fit

theorem rollBack (underway : t.stage = .charged ∨ t.stage = .running)
    {outcome : AdmissionOutcome}
    (back : outcome.isTakenBack terms.refundDenied) :
    t.Continues terms (t.rollBack outcome) where
  hold := rfl
  allowed := rfl
  isRefunded := rfl
  sound sound := by
    obtain ⟨guard, refunds, fit⟩ := sound.of_underway underway
    refine .failing outcome outcome.name rfl back ?_ refunds fit
    rw [Ticket.rollBack, guard]
    rfl

theorem commit (running : t.stage = .running) :
    t.Continues terms t.commit where
  hold := rfl
  allowed := rfl
  isRefunded := rfl
  sound sound := by
    obtain ⟨guard, refunds, fit⟩ := sound.of_underway (.inr running)
    exact .kept .admitted rfl rfl refunds

theorem isRefunded_startRefunds (t : Ticket) (reasons : List String) :
    (t.startRefunds reasons).isRefunded = t.isRefunded := by
  simp [Ticket.startRefunds, Ticket.isRefunded, Function.comp_def]

theorem poll {outcome : AdmissionOutcome}
    (failed : t.stage = .settling outcome) :
    t.Continues terms t.poll where
  hold := rfl
  allowed := rfl
  isRefunded := isRefunded_startRefunds _ _
  sound sound := by
    obtain ⟨back, fit, ⟨reason, guard, refunds⟩ |
      ⟨guard, refund, refunds, fair⟩⟩ := sound.of_settling failed
    · refine .settling outcome { reason } failed back ?_ ?_ fit nofun
      · simp [Ticket.poll, Ticket.startRefunds, guard, Guard.poll]
      · simp [Ticket.poll, Ticket.startRefunds, guard, Guard.poll, refunds]
    · refine .settling outcome refund failed back ?_ ?_ fit fair
      · simp [Ticket.poll, Ticket.startRefunds, guard, Guard.poll]
      · simp [Ticket.poll, Ticket.startRefunds, guard, Guard.poll, refunds]

theorem settle {outcome : AdmissionOutcome}
    (failed : t.stage = .settling outcome) (settled : t.isSettled) :
    t.Continues terms { t with stage := .over (some outcome) } where
  hold := rfl
  allowed := rfl
  isRefunded := rfl
  sound sound := by
    simp only [Ticket.isSettled, Bool.and_eq_true, decide_eq_true_eq,
      List.all_eq_true] at settled
    obtain ⟨disarmed, done⟩ := settled
    obtain ⟨back, fit, ⟨reason, guard, refunds⟩ |
      ⟨guard, refund, refunds, fair⟩⟩ := sound.of_settling failed
    · rw [disarmed] at guard
      cases guard
    · refine .refunded outcome refund rfl back refunds fit fair ?_
      exact done refund (by rw [refunds]; exact List.mem_singleton_self _)

theorem cancel (underway : ∀ outcome, t.stage ≠ .over outcome) :
    t.Continues terms t.cancel where
  hold := rfl
  allowed := rfl
  isRefunded := isRefunded_startRefunds _ _
  sound sound := by
    cases sound with
    | underway stage guard refunds fit =>
        refine .cancelled { reason := "cancelled" } rfl ?_ fit nofun
        simp [Ticket.cancel, Ticket.startRefunds, guard, Guard.drop, refunds]
    | failing outcome reason stage back guard refunds fit =>
        refine .cancelled { reason := "cancelled" } rfl ?_ fit nofun
        simp [Ticket.cancel, Ticket.startRefunds, guard, Guard.drop, refunds]
    | settling outcome refund stage back guard refunds fit fair =>
        refine .cancelled refund rfl ?_ fit fair
        simp [Ticket.cancel, Ticket.startRefunds, guard, Guard.drop, refunds]
    | refunded outcome refund stage => exact absurd stage (underway _)
    | kept outcome stage => exact absurd stage (underway _)
    | cancelled refund stage => exact absurd stage (underway _)

theorem any_modify_of_eq {α : Type} {test : α → Bool} {f : α → α} {l : List α}
    {i : Nat} (same : ∀ a, l[i]? = some a → test (f a) = test a) :
    (l.modify i f).any test = l.any test := by
  induction l generalizing i with
  | nil => simp
  | cons head rest ih =>
      cases i with
      | zero => simp [same head rfl]
      | succ i =>
          have later := ih (i := i) fun a there => same a there
          simp [later]

theorem lose {i : Nat} {refund : Refund} (there : t.refunds[i]? = some refund)
    (pending : refund.state = .pending) (outages : terms.outages = true) :
    t.Continues terms (t.setRefund i .lost) where
  hold := rfl
  allowed := rfl
  isRefunded := by
    refine any_modify_of_eq ?_
    intro found same
    rw [there] at same
    cases same
    simp [pending]
  sound sound := sound.setRefund there pending fun _ => outages

end Continues

/-! The step that takes a charge back -/

theorem isRefunded_setRefund {i : Nat} {refund : Refund}
    (there : t.refunds[i]? = some refund) :
    (t.setRefund i .answered).isRefunded := by
  have after : (t.setRefund i .answered).refunds[i]? =
      some { refund with state := .answered } := by
    simp [setRefund, there]
  exact List.any_eq_true.mpr ⟨_, List.mem_of_getElem? after, rfl⟩

theorem Sound.not_isRefunded (sound : t.Sound terms) {i : Nat}
    {refund : Refund} (there : t.refunds[i]? = some refund)
    (pending : refund.state = .pending) : t.isRefunded = false := by
  obtain ⟨-, only⟩ := sound.refunds_eq there
  simp [isRefunded, only, pending]

end Ticket

end Tollgate
