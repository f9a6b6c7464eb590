import Tollgate.Proofs.Config.Violation
import Tollgate.Proofs.Plaza.Basic
import Tollgate.Proofs.PrefixTable.Listing
import Tollgate.Proofs.Session.InForce

/-!
What a gate made of accepted settings can rely on, whatever goes through it: no
limit and no price is nonsense, every breaker can trip, and every model has a
provider.
-/

namespace Tollgate

namespace Settings

open PrefixTable

variable {s : Settings}

/-! What the check accepts -/

theorem violations_eq_nil_iff : s.violations = [] ↔ ∀ v, ¬ s.Breaks v := by
  rw [List.eq_nil_iff_forall_not_mem]
  exact forall_congr' fun v => not_congr mem_violations_iff

theorem check_of_kept (kept : ∀ v, ¬ s.Breaks v) : s.check = .ok s := by
  rw [check, violations_eq_nil_iff.mpr kept]

theorem check_of_breaks {v : Violation} (breaks : s.Breaks v) :
    s.check = .error (.invalid s.violations) := by
  unfold check
  split
  · rename_i none
    exact absurd breaks (violations_eq_nil_iff.mp none v)
  · rfl

theorem kept_of_check {checked : Settings} (accepted : s.check = .ok checked) :
    s = checked ∧ ∀ v, ¬ s.Breaks v := by
  have kept : ∀ v, ¬ s.Breaks v := by
    intro v breaks
    rw [check_of_breaks breaks] at accepted
    cases accepted
  rw [check_of_kept kept] at accepted
  exact ⟨Except.ok.inj accepted, kept⟩

theorem kept_of_ofToml {toml : String} (valid : ofToml toml = .ok s) :
    ∀ v, ¬ s.Breaks v := by
  unfold ofToml at valid
  split at valid
  · cases valid
  · obtain ⟨rfl, kept⟩ := kept_of_check valid
    exact kept

/-! What accepted settings are good for -/

theorem isMoney_limitFor (kept : ∀ v, ¬ s.Breaks v) (tenant : String) :
    IsMoney (s.budget.limitFor tenant) := by
  unfold BudgetSettings.limitFor
  cases set : s.budget.tenantLimits.get? tenant with
  | none => exact not_not.mp fun bad => kept _ (.defaultLimit bad)
  | some limit => exact not_not.mp fun bad => kept _ (.tenantLimit set bad)

theorem failMax_configFor (kept : ∀ v, ¬ s.Breaks v) (dependency : String) :
    1 ≤ ((Registry.ofSettings s.breaker).configFor dependency).failMax := by
  unfold Registry.configFor Registry.ofSettings
  rw [Assoc.get?_map]
  cases set : s.breaker.overrides.get? dependency with
  | none =>
      exact Nat.pos_of_ne_zero fun zero => kept _ (.defaultFailMax zero)
  | some thresholds =>
      exact Nat.pos_of_ne_zero fun zero => kept _ (.failMax set zero)

theorem provider_ne_empty (kept : ∀ v, ¬ s.Breaks v) (model : String) :
    s.routing.table.lookup model ≠ "" := by
  apply s.routing.answersBy_table.lookup_forall (P := (· ≠ ""))
  · intro e member
    obtain ⟨rule, ruleMember, rfl⟩ := List.mem_map.mp member
    obtain ⟨index, listed⟩ := List.mem_iff_getElem?.mp ruleMember
    exact fun empty => kept _ (.ruleProvider listed empty)
  · exact fun empty => kept _ (.defaultProvider empty)

theorem isMoney_price (kept : ∀ v, ¬ s.Breaks v)
    {listed : List (String × TokenPrice)}
    (order : listed.Perm s.pricing.models.entries) (model : String) :
    ((s.pricing.tableOf listed).lookup model).IsMoney := by
  apply (s.pricing.answersBy_tableOf listed).lookup_forall
  · intro e member
    have set := Assoc.mem_entries_iff.mp (order.mem_iff.mp member)
    exact not_not.mp fun bad => kept _ (.modelPrice set bad)
  · exact not_not.mp fun bad => kept _ (.fallbackPrice bad)

end Settings

/-! A gate in use -/

namespace Gate

/-- The tables stay, and the registry is the one that it was, in use. -/
structure Continues (g h : Gate) : Prop where
  registry : ∃ events, h.registry = (g.registry.run events).2.2
  providers : h.providers = g.providers
  prices : h.prices = g.prices

theorem Continues.refl (g : Gate) : g.Continues g := ⟨⟨[], rfl⟩, rfl, rfl⟩

theorem Continues.trans {g h k : Gate} (first : g.Continues h)
    (second : h.Continues k) : g.Continues k where
  registry := by
    obtain ⟨events, one⟩ := first.registry
    obtain ⟨more, two⟩ := second.registry
    refine ⟨events ++ more, ?_⟩
    rw [Registry.run_append, ← one]
    exact two
  providers := second.providers.trans first.providers
  prices := second.prices.trans first.prices

/-- Every limit in force is an amount of money. -/
def LimitsMoney (g : Gate) : Prop :=
  ∀ tenant, IsMoney (g.ledger.limitFor tenant)

/-- What a gate has from settings that were accepted: breakers that can trip,
those it has made and those it has yet to make, a provider for every model, and
prices that are money. -/
structure Sane (g : Gate) : Prop where
  made : ∀ dependency b, g.registry.get? dependency = some b →
    1 ≤ b.config.failMax
  unmade : ∀ dependency, 1 ≤ (g.registry.fresh dependency).config.failMax
  provider : ∀ model, g.providers.lookup model ≠ ""
  price : ∀ model, (g.prices.lookup model).IsMoney

theorem Takes.limitsMoney {g after : Gate} {step : Step}
    (takes : g.Takes step after) (texts : ∀ change, step ≠ .updateBudget change)
    (before : g.LimitsMoney) : after.LimitsMoney := by
  cases takes with
  | moves own moves =>
      intro tenant
      rw [Ledger.limitFor, moves.rules.budget]
      exact before tenant
  | changed change => exact absurd rfl (texts change)
  | accepted valid =>
      exact Settings.isMoney_limitFor (Settings.kept_of_ofToml valid)
  | _ => exact before

end Gate

/-- The budget is set by hand, not by settings that were checked. -/
def PlazaEvent.setsBudget : PlazaEvent → Bool
  | .step (.updateBudget _) | .move (.updateBudget _) => true
  | _ => false

namespace Plaza

variable {p : Plaza} {event : PlazaEvent}

theorem next_continues (amounts : p.ChargesAmounts) (event : PlazaEvent) :
    p.gate.Continues (p.next event).gate := by
  cases own : event.befalls with
  | false =>
      have moves := (next_speaks amounts own).moves
      exact ⟨moves.registry_run, moves.rules.providers, moves.rules.prices⟩
  | true =>
      cases event with
      | step step =>
          have takes := p.session.step_takes step
          exact ⟨takes.registry_run, takes.tables.1, takes.tables.2⟩
      | move m =>
          cases m with
          | advance | setOutage | updateBudget => exact ⟨⟨[], rfl⟩, rfl, rfl⟩
          | _ => cases own

theorem next_limitsMoney (amounts : p.ChargesAmounts)
    (texts : event.setsBudget = false) (before : p.gate.LimitsMoney) :
    (p.next event).gate.LimitsMoney := by
  cases own : event.befalls with
  | false =>
      have rules := (next_speaks amounts own).moves.rules
      intro tenant
      rw [Ledger.limitFor, rules.budget]
      exact before tenant
  | true =>
      cases event with
      | step step =>
          refine (p.session.step_takes step).limitsMoney ?_ before
          rintro change rfl
          cases texts
      | move m =>
          cases m with
          | advance | setOutage => exact before
          | updateBudget => cases texts
          | _ => cases own

theorem run_continues (amounts : p.ChargesAmounts) (events : List PlazaEvent) :
    p.gate.Continues (p.run events).2.gate := by
  induction events generalizing p with
  | nil => exact .refl _
  | cons event rest ih =>
      exact (next_continues amounts event).trans (ih (amounts.next event))

theorem run_limitsMoney (amounts : p.ChargesAmounts) {events : List PlazaEvent}
    (texts : ∀ event ∈ events, event.setsBudget = false)
    (before : p.gate.LimitsMoney) : (p.run events).2.gate.LimitsMoney := by
  induction events generalizing p with
  | nil => exact before
  | cons event rest ih =>
      apply ih (amounts.next event)
      · exact fun later member => texts later (List.mem_cons_of_mem _ member)
      · exact next_limitsMoney amounts (texts event List.mem_cons_self) before

/-- Nothing goes through it yet, and its prices are listed in some order. -/
def opening (s : Settings) (listed : List (String × TokenPrice)) : Plaza where
  session := (Session.ofSettings s).priced (s.pricing.tableOf listed)

theorem opening_chargesAmounts (s : Settings)
    (listed : List (String × TokenPrice)) : (opening s listed).ChargesAmounts :=
  nofun

theorem run_sane {s : Settings} (kept : ∀ v, ¬ s.Breaks v)
    {listed : List (String × TokenPrice)}
    (order : listed.Perm s.pricing.models.entries) (events : List PlazaEvent) :
    ((opening s listed).run events).2.gate.Sane := by
  have after := run_continues (opening_chargesAmounts s listed) events
  obtain ⟨ops, registry⟩ := after.registry
  have failMax (dependency : String) :
      1 ≤ (((opening s listed).run events).2.gate.registry.found
        dependency).config.failMax := by
    rw [registry, Registry.found_run_config rfl]
    exact Settings.failMax_configFor kept dependency
  refine ⟨?_, ?_, ?_, ?_⟩
  · intro dependency b made
    rw [← Registry.found_of_some made]
    exact failMax dependency
  · intro dependency
    rw [registry]
    change 1 ≤ (Registry.configFor _ dependency).failMax
    rw [Registry.configFor_run]
    exact Settings.failMax_configFor kept dependency
  · intro model
    rw [after.providers]
    exact Settings.provider_ne_empty kept model
  · intro model
    rw [after.prices]
    exact Settings.isMoney_price kept order model

end Plaza

/-- The check reports every broken rule once, in the order of the rules, and
nothing else, and it accepts settings that break none. A gate made of them,
whatever the order in which its prices are listed, is sane whatever goes through
it, and its limits are money for as long as nobody sets them by hand. -/
theorem check_exact_and_enough (s : Settings) :
    ((∀ v, v ∈ s.violations ↔ s.Breaks v) ∧
      s.violations.Pairwise fun v other =>
        v ≠ other ∧ v.place ≤ other.place) ∧
    (s.check = .ok s ↔ ∀ v, ¬ s.Breaks v) ∧
    ((∃ v, s.Breaks v) → s.check = .error (.invalid s.violations)) ∧
    (s.check = .ok s →
      ∀ listed, listed.Perm s.pricing.models.entries → ∀ events,
        ((Plaza.opening s listed).run events).2.gate.Sane ∧
        ((∀ event ∈ events, event.setsBudget = false) →
          ((Plaza.opening s listed).run events).2.gate.LimitsMoney)) := by
  refine ⟨⟨?_, s.reports_violations.inOrder⟩, ⟨?_, Settings.check_of_kept⟩,
    ?_, ?_⟩
  · exact fun v => Settings.mem_violations_iff
  · exact fun accepted => (Settings.kept_of_check accepted).2
  · rintro ⟨v, breaks⟩
    exact Settings.check_of_breaks breaks
  · intro accepted listed order events
    have kept := (Settings.kept_of_check accepted).2
    refine ⟨Plaza.run_sane kept order events, ?_⟩
    intro texts
    exact Plaza.run_limitsMoney (Plaza.opening_chargesAmounts s listed) texts
      (Settings.isMoney_limitFor kept)

/-- A tenant with a limit of its own, a breaker that trips at once, two prices
listed backwards, and a budget that comes from another text on the way. -/
theorem check_exact_and_enough_twice_priced :
    let s : Settings := {
      budget := { tenantLimits := ⟨[("acme", 5)], by decide⟩ }
      breaker := { overrides := ⟨[("search", { failMax := 1 })], by decide⟩ }
      pricing := {
        models := ⟨[("gpt-4", ⟨10, 30⟩), ("gpt-4o", ⟨2.5, 10⟩)], by decide⟩ } }
    let listed : List (String × TokenPrice) :=
      [("gpt-4o", ⟨2.5, 10⟩), ("gpt-4", ⟨10, 30⟩)]
    let events : List PlazaEvent := [
      .step (.breaker "search" (.failures 1)),
      .move (.arrive "acme" "search" 1), .move (.askBreaker 0),
      .step (.reload "[budget]\ndefault_limit = 3.0")]
    let g := ((Plaza.opening s listed).run events).2.gate
    (s.check = .ok s ∧ listed.Perm s.pricing.models.entries ∧
      ∀ event ∈ events, event.setsBudget = false) ∧
      (∃ b, g.registry.get? "search" = some b ∧ b.config.failMax = 1) ∧
      g.ledger.budget.limitFor "acme" = 3 ∧ g.Sane ∧ g.LimitsMoney := by
  intro s listed events g
  have kept : ∀ v, ¬ s.Breaks v :=
    Settings.violations_eq_nil_iff.mp (by decide +kernel)
  have order : listed.Perm s.pricing.models.entries := .swap _ _ _
  have texts : ∀ event ∈ events, event.setsBudget = false := by
    simp [events, PlazaEvent.setsBudget]
  obtain ⟨-, accepts, -, enough⟩ := check_exact_and_enough s
  have accepted : s.check = .ok s := accepts.mpr kept
  obtain ⟨sane, limits⟩ := enough accepted listed order events
  refine ⟨⟨accepted, order, texts⟩, ?_, ?_, sane, limits texts⟩
  · have made : (g.registry.get? "search").map (·.config.failMax) = some 1 := by
      decide +kernel
    exact Option.map_eq_some_iff.mp made
  · decide +kernel

end Tollgate
