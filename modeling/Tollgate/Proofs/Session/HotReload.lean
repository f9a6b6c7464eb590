import Tollgate.Proofs.Admin.Authorization
import Tollgate.Proofs.Spend.Ledger

/-!
Reloads while the gate is in use. A text that is not accepted might as well not
have been offered. One that is accepted puts its budget and its admin key in
force, for the next charge and the next request, and has no say in anything
else: not in periods that have begun, nor in breakers, routes and prices.
-/

namespace Tollgate

/-- A text is offered for a reload and is not accepted. -/
def Step.isRejected : Step → Bool
  | .reload toml => (Settings.ofToml toml).toOption.isNone
  | _ => false

namespace Gate.Takes

variable {g after : Gate} {step : Step} {key : String} {e : SpendEntry}

theorem now_le (takes : g.Takes step after) : g.now ≤ after.now := by
  cases takes with
  | moves own moves => exact Nat.le_of_eq moves.now.symm
  | passes duration => exact Nat.le_add_right _ _
  | _ => exact Nat.le_refl _

theorem get?_of_live (takes : g.Takes step after)
    (live : g.ledger.store.live? g.now key = some e) :
    ∃ total, after.ledger.store.entries.get? key = some { e with total } := by
  cases takes with
  | moves own moves => exact moves.get?_of_live live
  | asked op =>
      exact (SpendStore.Writes.perform _ g.now op).get?_of_live live
  | _ => exact ⟨e.total, (SpendStore.live?_eq_some.mp live).1⟩

end Gate.Takes

namespace Session

variable {s : Session} {settings : Settings} {steps : List Step}
  {key : String} {e : SpendEntry}

/-! Texts that are not accepted -/

theorem step_of_isRejected {step : Step} (rejected : step.isRejected) :
    (s.step step).2 = s := by
  cases step with
  | reload toml =>
      change (s.reload toml).2 = s
      unfold reload
      cases offered : Settings.ofToml toml with
      | error error => rfl
      | ok newer => simp [Step.isRejected, offered, Except.toOption] at rejected
  | _ => cases rejected

theorem transcript_without_rejected (s : Session) (steps : List Step) :
    s.transcript (steps.filter (!·.isRejected)) =
      (s.transcript steps).filter (!·.1.isRejected) := by
  induction steps generalizing s with
  | nil => rfl
  | cons step rest ih =>
      rw [transcript_cons, List.filter_cons, List.filter_cons]
      cases rejected : step.isRejected with
      | true =>
          rw [step_of_isRejected rejected]
          simpa using ih s
      | false => simp [transcript_cons, ih]

theorem run_without_rejected (s : Session) (steps : List Step) :
    (s.run (steps.filter (!·.isRejected))).2 = (s.run steps).2 := by
  induction steps generalizing s with
  | nil => rfl
  | cons step rest ih =>
      rw [run_cons, List.filter_cons]
      cases rejected : step.isRejected with
      | true =>
          rw [step_of_isRejected rejected]
          simpa using ih s
      | false => simp [run_cons, ih]

/-! Texts that are accepted -/

theorem step_of_accepted {toml : String} {newer : Settings}
    (valid : Settings.ofToml toml = .ok newer) :
    s.step (.reload toml) =
      (.reloaded, { s with gate := { s.gate with
        admin := newer.admin
        ledger := { s.gate.ledger with budget := newer.budget }
        telemetry := s.gate.telemetry.add [.log (.limitsUpdated
          newer.budget.defaultLimit newer.budget.tenantLimits.size)] } }) := by
  change s.reload toml = _
  unfold reload
  rw [valid]
  rfl

/-! Periods -/

theorem run_now_le (s : Session) (steps : List Step) :
    s.gate.now ≤ (s.run steps).2.gate.now := by
  induction steps generalizing s with
  | nil => exact Nat.le_refl _
  | cons step rest ih => exact Nat.le_trans (s.step_takes step).now_le (ih _)

/-- A period keeps its id and its end for as long as it lasts. -/
theorem run_get?_of_live
    (live : s.gate.ledger.store.live? s.gate.now key = some e)
    (lasts : (s.run steps).2.gate.now < e.expiresAt) :
    ∃ total, (s.run steps).2.gate.ledger.store.entries.get? key =
      some { e with total } := by
  induction steps generalizing s e with
  | nil => exact ⟨e.total, (SpendStore.live?_eq_some.mp live).1⟩
  | cons step rest ih =>
      -- The entry is live after the step too: time does not go back, and its
      -- end is not reached by the last step.
      obtain ⟨total, found⟩ := (s.step_takes step).get?_of_live live
      have early := Nat.lt_of_le_of_lt ((s.step step).2.run_now_le rest) lasts
      have still : (s.step step).2.gate.ledger.store.live?
          (s.step step).2.gate.now key = some { e with total } :=
        SpendStore.live?_eq_some.mpr ⟨found, decide_eq_true early⟩
      obtain ⟨newer, after⟩ := ih still lasts
      exact ⟨newer, after⟩

/-! All together -/

/-- What a session goes by after the steps: the budget and the admin settings
that were put in force last, and for the rest the settings it began with. The
breaker of a dependency is the one that is there, or the one to be made. -/
structure GoesBy (settings : Settings) (steps : List Step) (s : Session) :
    Prop where
  budget : s.gate.ledger.budget = budgetAfter settings.budget steps
  admin : s.gate.admin = (inForce settings steps).admin
  breakers : ∃ events, s.gate.registry =
    ((Registry.ofSettings settings.breaker).run events).2.2
  config : ∀ dependency, (s.gate.registry.found dependency).config =
    (Registry.ofSettings settings.breaker).configFor dependency
  providers : s.gate.providers = settings.routing.table
  prices : s.gate.prices = settings.pricing.table

theorem run_goesBy (settings : Settings) (steps : List Step) :
    ((ofSettings settings).run steps).2.GoesBy settings steps where
  budget := run_budget _ steps
  admin := run_admin rfl steps
  breakers := run_registry _ steps
  config dependency := by
    obtain ⟨events, after⟩ := (ofSettings settings).run_registry steps
    rw [after]
    exact Registry.found_run_config rfl events
  providers := (run_tables _ steps).1
  prices := (run_tables _ steps).2

theorem reserve_of_goesBy (goes : s.GoesBy settings steps) {cost : Float}
    (accepted : isAmount cost) (reachable : s.gate.ledger.outage = none)
    (tenant : String) :
    let budget := budgetAfter settings.budget steps
    (s.step (.reserve tenant cost)).1 =
      answerOf .reservation id (Ledger.answerCharge (budget.limitFor tenant)
        (s.gate.ledger.store.reserve s.gate.now (budget.keyFor tenant)
          (Micros.ofAmount cost) (Micros.ofAmount (budget.limitFor tenant))
          budget.period).1) := by
  intro budget
  change (s.reserve tenant cost).1 = _
  rw [reserve_eq, Ledger.reserve_of_reachable accepted reachable]
  simp only [Ledger.limitFor, Ledger.keyFor, goes.budget]
  rfl

/-- Texts that are not accepted change no answer to anything else. After any
steps the session goes by what was put in force last, charges by that budget,
and admits requests by that key. An accepted text changes the budget, the admin
settings and the log only, and live periods go on as they began. -/
theorem reloads_stay_in_their_lane (settings : Settings) (steps : List Step) :
    let s := ofSettings settings
    let last := (s.run steps).2
    let budget := budgetAfter settings.budget steps
    s.transcript (steps.filter (!·.isRejected)) =
        (s.transcript steps).filter (!·.1.isRejected) ∧
      (s.run (steps.filter (!·.isRejected))).2 = last ∧
      last.GoesBy settings steps ∧
      ((∀ change, Step.updateBudget change ∉ steps) →
        budget = (inForce settings steps).budget) ∧
      (∀ tenant cost, isAmount cost → last.gate.ledger.outage = none →
        (last.step (.reserve tenant cost)).1 =
          answerOf .reservation id
            (Ledger.answerCharge (budget.limitFor tenant)
              (last.gate.ledger.store.reserve last.gate.now
                (budget.keyFor tenant) (Micros.ofAmount cost)
                (Micros.ofAmount (budget.limitFor tenant))
                budget.period).1)) ∧
      (∀ request : Request, last.gate.authorizes request.authorization ↔
        request.Bears (inForce settings steps).admin.apiKey) ∧
      (∀ toml newer, Settings.ofToml toml = .ok newer →
        last.step (.reload toml) =
          (.reloaded, { last with gate := { last.gate with
            admin := newer.admin
            ledger := { last.gate.ledger with budget := newer.budget }
            telemetry := last.gate.telemetry.add [.log (.limitsUpdated
              newer.budget.defaultLimit
              newer.budget.tenantLimits.size)] } })) ∧
      ∀ later key e,
        last.gate.ledger.store.live? last.gate.now key = some e →
        (last.run later).2.gate.now < e.expiresAt →
          ∃ total, (last.run later).2.gate.ledger.store.entries.get? key =
            some { e with total } := by
  intro s last budget
  have goes : last.GoesBy settings steps := run_goesBy settings steps
  refine ⟨s.transcript_without_rejected steps, s.run_without_rejected steps,
    goes, budgetAfter_eq_inForce, ?_, ?_, ?_, ?_⟩
  · intro tenant cost accepted reachable
    exact reserve_of_goesBy goes accepted reachable tenant
  · intro request
    rw [Gate.authorizes_iff, goes.admin]
  · intro toml newer valid
    exact step_of_accepted valid
  · intro later key e live lasts
    exact run_get?_of_live live lasts

/-- A shorter period and limits are put in force by the one text, and a period
without length is not by the other. Charges go by the new limits at once; the
period that is live goes on past the new one. -/
theorem reloads_stay_in_their_lane_shorter_period :
    let steps : List Step := [.reserve "acme" 40,
      .reload "[budget]\nperiod_secs = 60\ndefault_limit = 42.0\n",
      .reload "[budget]\nperiod_secs = 0\n"]
    let last := ((ofSettings {}).run steps).2
    let budget := budgetAfter {} steps
    let later := (last.run
      [.advance (Clock.secs 61), .reserve "acme" 5]).2
    last.gate.ledger.budget = budget ∧ budget.periodSecs = 60 ∧
      (budget.limitFor "acme" == 42) = true ∧
      (last.step (.reserve "acme" 2)).1 =
        .reservation (.charged ⟨true, 42000000, 0⟩ (budget.limitFor "acme")) ∧
      (last.step (.reserve "acme" 5)).1 =
        .reservation (.charged ⟨false, 45000000, 0⟩ (budget.limitFor "acme")) ∧
      ∃ total, later.gate.ledger.store.entries.get? "budget:acme" =
        some ⟨total, Clock.secs 86400, 0⟩ := by
  intro steps
  obtain ⟨-, -, goes, -, charges, -, -, lasting⟩ :=
    reloads_stay_in_their_lane {} steps
  have period : (budgetAfter {} steps).periodSecs = 60 := by decide +kernel
  have limit : ((budgetAfter {} steps).limitFor "acme" == 42) = true := by
    decide +kernel
  have reachable : ((ofSettings {}).run steps).2.gate.ledger.outage = none := by
    decide +kernel
  have reserved (cost : Float) (charge : Charge) (accepted : isAmount cost)
      (charged : (((ofSettings {}).run steps).2.gate.ledger.store.reserve
        ((ofSettings {}).run steps).2.gate.now
        ((budgetAfter {} steps).keyFor "acme") (Micros.ofAmount cost)
        (Micros.ofAmount ((budgetAfter {} steps).limitFor "acme"))
        (budgetAfter {} steps).period).1 = some charge) :
      (((ofSettings {}).run steps).2.step (.reserve "acme" cost)).1 =
        .reservation (.charged charge
          ((budgetAfter {} steps).limitFor "acme")) := by
    rw [charges "acme" cost accepted reachable, charged]
    rfl
  have fitting := reserved 2 ⟨true, 42000000, 0⟩ (by decide +kernel)
    (by decide +kernel)
  have beyond := reserved 5 ⟨false, 45000000, 0⟩ (by decide +kernel)
    (by decide +kernel)
  have goesOn := lasting [.advance (Clock.secs 61), .reserve "acme" 5]
    "budget:acme" ⟨40000000, Clock.secs 86400, 0⟩ (by decide +kernel)
    (by decide +kernel)
  exact ⟨goes.budget, period, limit, fitting, beyond, goesOn⟩

end Session

end Tollgate
