import Tollgate.Proofs.Session.Frame

/-!
Holds under new budget settings. A hold does not keep the key that it was
charged to: the settings in force when it is taken back say which key that is.
New limits and periods make no difference, but under a new key prefix the charge
stays.
-/

namespace Tollgate

theorem BudgetSettings.keyFor_eq_iff {b c : BudgetSettings} (tenant : String) :
    b.keyFor tenant = c.keyFor tenant ↔ b.keyPrefix = c.keyPrefix := by
  simp only [keyFor, String.append_left_inj]

namespace Gate

/-- The live entry of a key has come to a total, and those of others are as they
were. -/
structure ComesTo (key : String) (e : SpendEntry) (total : Int) (g h : Gate) :
    Prop where
  own : h.ledger.store.live? h.now key = some { e with total }
  others : ∀ other, other ≠ key →
    h.ledger.store.live? h.now other = g.ledger.store.live? g.now other

variable {g h : Gate} {key : String} {e : SpendEntry}

theorem ComesTo.of_sameBooks {before after : Gate} {total : Int}
    (comes : g.ComesTo key e total h) (first : before.SameBooks g)
    (last : h.SameBooks after) : before.ComesTo key e total after where
  own := by
    rw [last.ledger, last.now]
    exact comes.own
  others other different := by
    rw [last.ledger, last.now, ← first.ledger, ← first.now]
    exact comes.others other different

/-- A charge is taken back only under the key that the settings now in force
give, and no other key is touched. -/
theorem refund_comesTo (orderly : g.ledger.store.Orderly)
    (reachable : g.ledger.outage = none) (hold : Hold)
    (accepted : isAmount hold.cost) (reason : String)
    (live : g.ledger.store.live? g.now key = some e)
    (period : e.period = hold.period) :
    g.ComesTo key e
      (if g.ledger.keyFor hold.tenant = key then
        max 0 (e.total - Micros.ofAmount hold.cost)
      else e.total)
      (g.refund hold reason) := by
  have high := orderly.fits key e (SpendStore.live?_eq_some.mp live).1
  have exactly := Micros.max_sub_of_nonneg (Micros.ofAmount_nonneg accepted)
    high
  rw [refund_of_reachable hold reason accepted reachable, ← period]
  by_cases same : g.ledger.keyFor hold.tenant = key
  · rw [if_pos same, ← exactly, same]
    exact {
      own := SpendStore.live?_release_of_live live _
      others := fun other different =>
        SpendStore.release_live?_other (Ne.symm different) _ _ }
  · rw [if_neg same, orderly.release_of_foreign live same]
    exact ⟨live, fun _ _ => rfl⟩

theorem isAmount_of_charged {tenant : String} {cost limit : Float}
    {charge : Charge}
    (answered : (g.reserve tenant cost).1 = .ok (.charged charge limit)) :
    isAmount cost := by
  unfold reserve Ledger.reserve at answered
  cases accepted : isAmount cost with
  | true => rfl
  | false =>
      rw [accepted] at answered
      cases answered

end Gate

namespace Session

/-- A step that takes a charge back which the program holds, or which is held
for a call whose operation runs. -/
inductive TakesBack (s : Session) (hold : Hold) : Step → Prop where
  | rollback (id reason : String) (held : s.holds.get? id = some hold) :
      TakesBack s hold (.rollbackHold id reason)
  | drop (id : String) (held : s.holds.get? id = some hold) :
      TakesBack s hold (.dropHold id)
  | failure (id dependency message : String)
      (runs : s.calls.get? id = some ⟨hold, dependency⟩) :
      TakesBack s hold (.finish id (.error message))
  | cancel (id dependency : String)
      (runs : s.calls.get? id = some ⟨hold, dependency⟩) :
      TakesBack s hold (.cancel id)

variable {s : Session} {id tenant : String} {cost limit : Float}
  {charge : Charge}

theorem TakesBack.refunds {hold : Hold} {step : Step}
    (back : s.TakesBack hold step) :
    ∃ g reason, s.gate.SameBooks g ∧
      (g.refund hold reason).SameBooks (s.step step).2.gate := by
  cases back with
  | rollback id reason held =>
      refine ⟨s.gate, reason, .refl _, ?_⟩
      simp only [Session.step, settle, held]
      exact .refl _
  | drop id held =>
      refine ⟨s.gate, "cancelled", .refl _, ?_⟩
      simp only [Session.step, settle, held]
      exact .refl _
  | failure id dependency message runs =>
      have heard := Gate.SameBooks.hear s.gate ⟨hold, dependency⟩
        (.error message)
      refine ⟨_, AdmissionOutcome.operationFailed.name, heard, ?_⟩
      simp only [Session.step, finish, runs]
      exact ⟨rfl, rfl⟩
  | cancel id dependency runs =>
      refine ⟨s.gate, "cancelled", .refl _, ?_⟩
      simp only [Session.step, Session.cancel, runs]
      exact .refl _

theorem hold_holds
    (answered : (s.gate.reserve tenant cost).1 = .ok (.charged charge limit)) :
    (s.hold id tenant cost).2.holds.get? id =
      some ⟨tenant, cost, charge.period⟩ := by
  unfold hold
  rcases reserved : s.gate.reserve tenant cost with ⟨answer, gate⟩
  rw [reserved] at answered
  cases answered
  exact Assoc.get?_insert_self _ _ _

/-- A charge stays held through steps of any kind, new settings among them,
until one is about it. As long as its period is live, taking it back takes it
off exactly if the key prefix is what it was at the charge; otherwise nothing
is taken off anywhere. -/
theorem taken_back_iff_prefix_kept (settings : Settings)
    (earlier later : List Step) (tenant : String) (cost limit : Float)
    (charge : Charge) (e : SpendEntry) :
    let s := ((ofSettings settings).run earlier).2
    let during := (s.run later).2
    let key := s.gate.ledger.keyFor tenant
    let hold : Hold := ⟨tenant, cost, charge.period⟩
    (s.gate.reserve tenant cost).1 = .ok (.charged charge limit) →
      (∀ id others, later = .hold id tenant cost :: others →
        (∀ step ∈ others, step.concerns id = false) →
          during.holds.get? id = some hold) ∧
      (during.gate.ledger.outage = none →
        during.gate.ledger.store.live? during.gate.now key = some e →
        e.period = charge.period →
          ∀ last, during.TakesBack hold last →
            during.gate.ComesTo key e
              (if during.gate.ledger.budget.keyPrefix =
                  s.gate.ledger.budget.keyPrefix then
                max 0 (e.total - Micros.ofAmount cost)
              else e.total)
              (during.step last).2.gate) := by
  intro s during key hold answered
  have orderly : during.gate.ledger.store.Orderly :=
    run_orderly (run_orderly SpendStore.orderly_empty earlier) later
  constructor
  · rintro id others rfl untouched
    exact (run_holds untouched).trans (hold_holds answered)
  · intro reachable live period last back
    obtain ⟨g, reason, first, refunded⟩ := back.refunds
    have sameKey : g.ledger.keyFor tenant = key ↔
        during.gate.ledger.budget.keyPrefix =
          s.gate.ledger.budget.keyPrefix := by
      rw [first.ledger]
      exact BudgetSettings.keyFor_eq_iff tenant
    rw [← first.ledger] at orderly reachable
    rw [← first.ledger, ← first.now] at live
    have comes := Gate.refund_comesTo orderly reachable hold
      (Gate.isAmount_of_charged answered) reason live period
    simp only [hold, sameKey] at comes
    exact comes.of_sameBooks first refunded

/-- A new limit, a new period and another tenant do not come between a hold and
its charge. -/
theorem taken_back_iff_prefix_kept_new_limit :
    let s := ((ofSettings {}).run []).2
    let during := (s.run [.hold "a" "acme" 10,
      .updateBudget { defaultLimit := some 5, periodSecs := some 60 },
      .reserve "other" 3]).2
    let after := (during.step (.dropHold "a")).2
    let key := s.gate.ledger.keyFor "acme"
    during.gate.ledger.store.live? during.gate.now key =
        some ⟨10000000, Clock.secs 86400, 0⟩ ∧
      after.gate.ledger.store.live? after.gate.now key =
        some ⟨0, Clock.secs 86400, 0⟩ := by
  obtain ⟨stays, taken⟩ := taken_back_iff_prefix_kept {} []
    [.hold "a" "acme" 10,
      .updateBudget { defaultLimit := some 5, periodSecs := some 60 },
      .reserve "other" 3]
    "acme" 10 50 ⟨true, 10000000, 0⟩ ⟨10000000, Clock.secs 86400, 0⟩ (by rfl)
  have held := stays "a" _ rfl (by simp [Step.concerns])
  have comes := taken (by decide +kernel) (by decide +kernel) rfl _
    (.drop "a" held)
  exact ⟨by decide +kernel, comes.own.trans (by decide +kernel)⟩

/-- The key prefix changes between a charge and its rollback, and the charge
stays. -/
theorem not_taken_back_after_new_prefix :
    let s := ofSettings {}
    let charged := (s.step (.hold "a" "acme" 10)).2
    let during :=
      (charged.step (.updateBudget { keyPrefix := some "spend" })).2
    let after := (during.step (.rollbackHold "a" "failed")).2
    (s.step (.hold "a" "acme" 10)).1 =
        .reservation (.charged ⟨true, Micros.ofAmount 10, 0⟩ 50) ∧
      during.gate.ledger.outage = none ∧
      s.gate.ledger.keyFor "acme" = "budget:acme" ∧
      during.gate.ledger.store.live? during.gate.now "budget:acme" =
        some ⟨Micros.ofAmount 10, Clock.secs 86400, 0⟩ ∧
      after.gate.ledger.store.live? after.gate.now "budget:acme" =
        some ⟨Micros.ofAmount 10, Clock.secs 86400, 0⟩ ∧
      0 < Micros.ofAmount 10 :=
  ⟨rfl, rfl, by decide +kernel, by decide +kernel, by decide +kernel,
    by decide +kernel⟩

end Session

end Tollgate
