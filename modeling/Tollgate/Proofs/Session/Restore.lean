import Tollgate.Proofs.Session.Frame
import Tollgate.Proofs.Traffic.Ticket

/-!
Charges that are taken back at once. If nothing else happens to a tenant
meanwhile, what it has spent is the same after as it was before, as long as the
charge was not too much for a word to hold: what does not fit is forgotten as it
is added, and taken off all the same.
-/

namespace Tollgate

theorem SpendStore.Charged.release_liveTotal {s after later : SpendStore}
    {now : Nat} {key : String} {amount limit : Int} {charge : Charge}
    (charged : s.Charged now key amount limit charge after) (sound : s.Sound)
    (nonneg : 0 ≤ amount) (small : amount ≤ Micros.greatest)
    (same : later.live? now key = after.live? now key) :
    (later.release now key amount (some charge.period)).2.liveTotal now key =
      min (s.liveTotal now key) (Micros.greatest - amount) := by
  have total := charged.total
  rw [Micros.add_eq_of_nonneg (sound.liveTotal_nonneg now key) nonneg] at total
  have exactly : max 0 (Micros.sub charge.total amount) =
      max 0 (charge.total - amount) :=
    Micros.max_sub_of_nonneg nonneg (by omega)
  cases live : s.live? now key with
  | some e =>
      have found := same.trans (charged.live e live)
      have taken := live?_release_of_live found amount
      have low := (sound.live live).nonneg
      rw [liveTotal_of_live live] at total ⊢
      rw [charged.same e live, liveTotal_of_live taken]
      simp only [exactly]
      omega
  | none =>
      rw [liveTotal_of_none live] at total ⊢
      cases found : later.live? now key with
      | none =>
          rw [release_of_none found, liveTotal_of_none found]
          omega
      | some f =>
          obtain ⟨own, period⟩ := charged.live?_self (same.symm.trans found)
          have taken := live?_release_of_live found amount
          rw [← period, liveTotal_of_live taken]
          simp only [own, exactly]
          omega

def Charging.hold? : Charging → Option Hold
  | .denied hold _ | .held hold => some hold
  | .refused _ | .clockOverflow => none

namespace Gate

/-- Whatever else has happened, it has not had to do with the tenant's money. -/
structure LeavesAlone (tenant : String) (g h : Gate) : Prop where
  now : h.now = g.now
  budget : h.ledger.budget = g.ledger.budget
  outage : h.ledger.outage = g.ledger.outage
  live : h.live? tenant = g.live? tenant

variable {g h k : Gate} {tenant dependency : String} {cost : Float}

namespace LeavesAlone

theorem of_sameBooks (books : g.SameBooks h) : g.LeavesAlone tenant h where
  now := books.now
  budget := by rw [books.ledger]
  outage := by rw [books.ledger]
  live := by rw [live?, live?, books.ledger, books.now]

theorem trans (first : g.LeavesAlone tenant h)
    (second : h.LeavesAlone tenant k) : g.LeavesAlone tenant k where
  now := second.now.trans first.now
  budget := second.budget.trans first.budget
  outage := second.outage.trans first.outage
  live := second.live.trans first.live

end LeavesAlone

/-- A charge has been made, and the hold is on it. -/
structure Charges (g : Gate) (tenant : String) (cost : Float) (hold : Hold)
    (h : Gate) : Prop where
  accepted : isAmount cost
  reachable : g.ledger.outage = none
  charged : ∃ answer store,
    g.ledger.store.Charged g.now (g.ledger.keyFor tenant)
      (Micros.ofAmount cost) (Micros.ofAmount (g.ledger.limitFor tenant))
      answer store ∧
    hold = ⟨tenant, cost, answer.period⟩ ∧ (g.withStore store).SameBooks h

theorem charge_cases {charging : Charging}
    (charge : g.charge tenant dependency cost = (charging, h)) :
    charging = .clockOverflow ∨
    (∃ refusal, charging = .refused refusal ∧
      ∀ refundDenied, refusal.outcome.isTakenBack refundDenied = false) ∨
    ∃ hold, g.Charges tenant cost hold h ∧
      (charging = .held hold ∨ ∃ refusal, charging = .denied hold refusal ∧
        refusal.outcome = .budgetExceeded) := by
  have given := g.charge_gives tenant dependency cost
  rw [charge] at given
  generalize result : (charging, h) = gives at given
  cases given with
  | invalid message rejected =>
      cases result
      exact .inr (.inl ⟨_, rfl, fun _ => rfl⟩)
  | unavailable error accepted outage =>
      cases result
      exact .inr (.inl ⟨_, rfl, fun _ => rfl⟩)
  | overflow store accepted reachable keeps =>
      cases result
      exact .inl rfl
  | charged answer store accepted reachable charged =>
      right
      right
      by_cases fits : answer.allowed
      · simp only [fits, if_true] at result
        cases result
        exact ⟨_, ⟨accepted, reachable, answer, store, charged, rfl, .refl _⟩,
          .inl rfl⟩
      · simp only [fits, Bool.false_eq_true, if_false] at result
        cases result
        exact ⟨_, ⟨accepted, reachable, answer, store, charged, rfl,
          .tell _ _⟩, .inr ⟨_, rfl, rfl⟩⟩

theorem charges_of_hold {charging : Charging} {hold : Hold}
    (charge : g.charge tenant dependency cost = (charging, h))
    (held : charging.hold? = some hold) : g.Charges tenant cost hold h := by
  rcases charge_cases charge with
    rfl | ⟨other, rfl, -⟩ | ⟨own, charges, rfl | ⟨other, rfl, -⟩⟩
  · cases held
  · cases held
  · cases held
    exact charges
  · cases held
    exact charges

theorem Charges.budget {hold : Hold} (charges : g.Charges tenant cost hold h) :
    h.ledger.budget = g.ledger.budget := by
  obtain ⟨answer, store, -, -, books⟩ := charges.charged
  rw [books.ledger]
  rfl

theorem Charges.refund_spent {hold : Hold}
    (charges : g.Charges tenant cost hold h) (sound : g.ledger.store.Sound)
    (alone : h.LeavesAlone tenant k) (reason : String) :
    (k.refund hold reason).spent tenant =
      min (g.spent tenant) (Micros.greatest - Micros.ofAmount cost) := by
  obtain ⟨accepted, reachable, answer, store, charged, rfl, books⟩ := charges
  have whole : (g.withStore store).LeavesAlone tenant k :=
    (LeavesAlone.of_sameBooks books).trans alone
  have now : k.now = g.now := whole.now
  have key : k.ledger.keyFor tenant = g.ledger.keyFor tenant := by
    rw [Ledger.keyFor, whole.budget]
    rfl
  have live : k.ledger.store.live? g.now (g.ledger.keyFor tenant) =
      store.live? g.now (g.ledger.keyFor tenant) := by
    have same := whole.live
    rw [live?, live?, now, key] at same
    exact same
  have released := charged.release_liveTotal sound
    (Micros.ofAmount_nonneg accepted) (Micros.ofAmount_le_greatest cost) live
  rw [refund_of_reachable ⟨tenant, cost, answer.period⟩ reason accepted
    (whole.outage.trans reachable)]
  change SpendStore.liveTotal _ k.now (k.ledger.keyFor tenant) = _
  rw [key, now]
  exact released

theorem admissionWith_spent
    {operation : Gate → Id (Except String String × Gate)}
    (sound : g.ledger.store.Sound)
    (alone : ∀ h, LeavesAlone tenant h (operation h).2) {refusal : Refusal}
    {invoked : Bool} {after : Gate}
    (ended : g.admissionWith (m := Id) tenant dependency cost operation =
      (some ⟨.error refusal, invoked⟩, after))
    (back : refusal.outcome.isTakenBack g.ledger.budget.refundDenied) :
    after.spent tenant =
      min (g.spent tenant) (Micros.greatest - Micros.ofAmount cost) := by
  unfold admissionWith start at ended
  rcases charge : g.charge tenant dependency cost with ⟨charging, h⟩
  rw [charge] at ended
  rcases charge_cases charge with
    rfl | ⟨other, rfl, stays⟩ | ⟨hold, charges, rfl | ⟨other, rfl, denied⟩⟩
  · cases ended
  · cases ended
    rw [stays] at back
    cases back
  · -- The breaker is asked, and then the operation runs.
    have asked := SameBooks.attempt h ⟨hold, dependency⟩
    simp only [enter] at ended
    rcases attempted : h.attempt ⟨hold, dependency⟩ with ⟨refused, k⟩
    rw [attempted] at ended asked
    have waited : h.LeavesAlone tenant k := .of_sameBooks asked
    cases refused with
    | some other =>
        cases ended
        exact charges.refund_spent sound waited _
    | none =>
        have ran := alone k
        rcases performed : operation k with ⟨result, l⟩
        dsimp only at ended
        rw [performed] at ended ran
        cases result with
        | ok value => cases ended
        | error message =>
            have heard := SameBooks.hear l ⟨hold, dependency⟩ (.error message)
            cases ended
            exact charges.refund_spent sound
              ((waited.trans ran).trans (.of_sameBooks heard)) _
  · by_cases denies : h.ledger.budget.refundDenied
    · simp only [denies, if_true] at ended
      cases ended
      exact charges.refund_spent sound (.of_sameBooks (.refl h)) _
    · simp only [denies, Bool.false_eq_true, if_false] at ended
      cases ended
      rw [charges.budget] at denies
      rw [denied] at back
      exact absurd back denies

end Gate

namespace Session

/-- A charge that is taken back, with nothing else happening to the tenant
meanwhile, leaves what the tenant had spent if the two fit into a word together,
and less otherwise. So does any admission that takes its charge back, whatever
its operation does besides. -/
theorem restored_iff_fits (settings : Settings) (steps : List Step)
    (fair : ∀ step ∈ steps, step.IsFair) (tenant dependency : String)
    (cost : Float) :
    let g := ((ofSettings settings).run steps).2.gate
    let left := min (g.spent tenant) (Micros.greatest - Micros.ofAmount cost)
    (left = g.spent tenant ↔
      g.spent tenant + Micros.ofAmount cost ≤ Micros.greatest) ∧
    (∀ charging h hold k reason,
      g.charge tenant dependency cost = (charging, h) →
      charging.hold? = some hold → h.LeavesAlone tenant k →
        (k.refund hold reason).spent tenant = left) ∧
    ∀ operation : Gate → Id (Except String String × Gate),
      (∀ h, Gate.LeavesAlone tenant h (operation h).2) →
      ∀ refusal invoked after,
        g.admissionWith (m := Id) tenant dependency cost operation =
          (some ⟨.error refusal, invoked⟩, after) →
        refusal.outcome.isTakenBack g.ledger.budget.refundDenied →
          after.spent tenant = left := by
  intro g left
  have empty : SpendStore.Sound {} := by
    intro key e found
    cases found
  have sound : g.ledger.store.Sound :=
    run_sound (s := ofSettings settings) empty fair
  refine ⟨by omega, ?_, ?_⟩
  · intro charging h hold k reason charge held alone
    exact (Gate.charges_of_hold charge held).refund_spent sound alone reason
  · intro operation alone refusal invoked after ended back
    exact Gate.admissionWith_spent sound alone ended back

/-- Ten have been spent when a call for more than is left is denied and taken
back. -/
theorem restored_iff_fits_denied :
    let g := ((ofSettings { budget := { refundDenied := true } }).run
      [.admission "acme" (.dependency "openai" 10) (.ok "done")]).2.gate
    let after := (g.admission "acme" "openai" 45 (.ok "done")).2
    g.spent "acme" = 10000000 ∧ after.spent "acme" = 10000000 := by
  obtain ⟨-, -, whole⟩ := restored_iff_fits
    { budget := { refundDenied := true } }
    [.admission "acme" (.dependency "openai" 10) (.ok "done")]
    (by simp [Step.IsFair]) "acme" "openai" 45
  have left := whole (fun h => (.ok "done", h))
    (fun h => .of_sameBooks (.refl h)) (.budgetExceeded "acme" 55 50) false _
    (by rfl) (by decide +kernel)
  exact ⟨by decide +kernel, left.trans (by decide +kernel)⟩

/-- Ten have been spent when a call for more than fits into a word is denied and
taken back, and then nothing has been. -/
theorem not_restored_of_excess :
    let s := ((ofSettings { budget := { refundDenied := true } }).run
      [.admission "acme" (.dependency "openai" 10) (.ok "done")]).2
    let (answer, after) :=
      s.step (.admission "acme" (.dependency "openai" 1e13) (.ok "done"))
    isAmount 1e13 ∧ s.gate.ledger.outage = none ∧
      s.gate.ledger.budget.refundDenied ∧
      (answer matches .admitted ⟨.error (.budgetExceeded "acme" _ _), false⟩) ∧
      s.gate.spent "acme" = 10000000 ∧ after.gate.spent "acme" = 0 :=
  ⟨by decide +kernel, by decide +kernel, by decide +kernel, by decide +kernel,
    by decide +kernel, by decide +kernel⟩

end Session

end Tollgate
