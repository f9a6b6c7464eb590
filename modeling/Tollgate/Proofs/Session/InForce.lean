import Tollgate.Proofs.Session.Frame

/-!
The settings that are in force. Only a text that is offered for a reload and is
accepted changes the admin settings; the budget settings may also be changed by
hand. Nothing changes the tables, and the registry stays the one that the first
settings made.
-/

namespace Tollgate

namespace Step

/-- The settings of an offered text that are accepted. -/
def accepted? : Step → Option Settings
  | .reload toml => (Settings.ofToml toml).toOption
  | _ => none

def budget (step : Step) (before : BudgetSettings) : BudgetSettings :=
  match step with
  | .updateBudget change => change.apply before
  | step => (step.accepted?.map (·.budget)).getD before

theorem accepted?_of_own {step : Step} (own : step.befalls = false) :
    step.accepted? = none := by
  cases step with
  | reload toml => cases own
  | _ => rfl

theorem budget_of_own {step : Step} (own : step.befalls = false)
    (before : BudgetSettings) : step.budget before = before := by
  cases step with
  | reload toml => cases own
  | updateBudget change => cases own
  | _ => rfl

theorem accepted?_of_ok {toml : String} {settings : Settings}
    (valid : Settings.ofToml toml = .ok settings) :
    (Step.reload toml).accepted? = some settings := by
  simp [accepted?, valid, Except.toOption]

theorem accepted?_of_error {toml : String} {error : ConfigError}
    (invalid : Settings.ofToml toml = .error error) :
    (Step.reload toml).accepted? = none := by
  simp [accepted?, invalid, Except.toOption]

end Step

namespace Gate.Takes

variable {g after : Gate} {step : Step}

theorem admin (takes : g.Takes step after) :
    after.admin = (step.accepted?.map (·.admin)).getD g.admin := by
  cases takes with
  | moves own moves =>
      rw [Step.accepted?_of_own own]
      exact moves.rules.admin
  | accepted valid =>
      rw [Step.accepted?_of_ok valid]
      rfl
  | rejected invalid =>
      rw [Step.accepted?_of_error invalid]
      rfl
  | _ => rfl

theorem budget (takes : g.Takes step after) :
    after.ledger.budget = step.budget g.ledger.budget := by
  cases takes with
  | moves own moves =>
      rw [Step.budget_of_own own]
      exact moves.rules.budget
  | accepted valid =>
      simp only [Step.budget, Step.accepted?_of_ok valid]
      rfl
  | rejected invalid =>
      simp only [Step.budget, Step.accepted?_of_error invalid]
      rfl
  | _ => rfl

theorem tables (takes : g.Takes step after) :
    after.providers = g.providers ∧ after.prices = g.prices := by
  cases takes with
  | moves own moves => exact ⟨moves.rules.providers, moves.rules.prices⟩
  | _ => exact ⟨rfl, rfl⟩

theorem registry_run (takes : g.Takes step after) :
    ∃ events, after.registry = (g.registry.run events).2.2 := by
  cases takes with
  | moves own moves => exact moves.registry_run
  | _ => exact ⟨[], rfl⟩

end Gate.Takes

namespace Session

/-- The settings that were accepted last, or those that came first. -/
def inForce (settings : Settings) (steps : List Step) : Settings :=
  (steps.filterMap Step.accepted?).getLast?.getD settings

/-- The budget settings that the steps leave in force. -/
def budgetAfter (before : BudgetSettings) (steps : List Step) :
    BudgetSettings :=
  steps.foldl (fun budget step => step.budget budget) before

theorem inForce_cons (settings : Settings) (step : Step) (rest : List Step) :
    inForce settings (step :: rest) =
      inForce (step.accepted?.getD settings) rest := by
  unfold inForce
  cases accepted : step.accepted? with
  | none => simp [accepted]
  | some newer => simp [accepted, List.getLast?_cons]

variable {s : Session} {settings : Settings}

theorem run_admin (same : s.gate.admin = settings.admin) (steps : List Step) :
    (s.run steps).2.gate.admin = (inForce settings steps).admin := by
  induction steps generalizing s settings with
  | nil => exact same
  | cons step rest ih =>
      have after := (s.step_takes step).admin
      rw [inForce_cons, run_cons]
      refine ih ?_
      rw [after, same]
      cases step.accepted? with
      | none => rfl
      | some newer => rfl

theorem run_budget (s : Session) (steps : List Step) :
    (s.run steps).2.gate.ledger.budget =
      budgetAfter s.gate.ledger.budget steps := by
  induction steps generalizing s with
  | nil => rfl
  | cons step rest ih =>
      rw [run_cons, ih, (s.step_takes step).budget]
      rfl

/-- Unless the budget is changed by hand, it is that of the last text. -/
theorem budgetAfter_eq_inForce {steps : List Step}
    (texts : ∀ change, Step.updateBudget change ∉ steps) :
    budgetAfter settings.budget steps = (inForce settings steps).budget := by
  induction steps generalizing settings with
  | nil => rfl
  | cons step rest ih =>
      have later : ∀ change, Step.updateBudget change ∉ rest :=
        fun change member => texts change (List.mem_cons_of_mem _ member)
      rw [inForce_cons, ← ih later]
      have next : step.budget settings.budget =
          (step.accepted?.getD settings).budget := by
        cases step with
        | updateBudget change => exact absurd List.mem_cons_self (texts change)
        | reload toml =>
            change ((Step.reload toml).accepted?.map (·.budget)).getD _ = _
            cases (Step.reload toml).accepted? with
            | none => rfl
            | some newer => rfl
        | _ => rfl
      rw [← next]
      rfl

theorem run_tables (s : Session) (steps : List Step) :
    (s.run steps).2.gate.providers = s.gate.providers ∧
      (s.run steps).2.gate.prices = s.gate.prices := by
  induction steps generalizing s with
  | nil => exact ⟨rfl, rfl⟩
  | cons step rest ih =>
      have first := (s.step_takes step).tables
      have later := ih (s.step step).2
      exact ⟨later.1.trans first.1, later.2.trans first.2⟩

theorem run_registry (s : Session) (steps : List Step) :
    ∃ events, (s.run steps).2.gate.registry =
      (s.gate.registry.run events).2.2 := by
  induction steps generalizing s with
  | nil => exact ⟨[], rfl⟩
  | cons step rest ih =>
      obtain ⟨events, first⟩ := (s.step_takes step).registry_run
      obtain ⟨more, later⟩ := ih (s.step step).2
      refine ⟨events ++ more, ?_⟩
      rw [Registry.run_append, ← first]
      exact later

end Session

end Tollgate
