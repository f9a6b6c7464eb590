import Mathlib.Data.Prod.Lex
import Tollgate.Assoc.Lemmas
import Tollgate.Config.Load

/-!
What the check of settings reports: every rule that is broken, once for each
place where it is, in the order of the rules, and nothing else.
-/

namespace Tollgate

def IsMoney (x : Float) : Prop :=
  x.isFinite ∧ 0 ≤ x

theorem isAmount_iff {x : Float} : isAmount x ↔ IsMoney x := by
  simp only [isAmount, IsMoney, Bool.and_eq_true, decide_eq_true_eq]

def TokenPrice.IsMoney (p : TokenPrice) : Prop :=
  Tollgate.IsMoney p.inputPerMillion ∧ Tollgate.IsMoney p.outputPerMillion

theorem TokenPrice.isValid_iff {p : TokenPrice} : p.isValid ↔ p.IsMoney := by
  simp only [isValid, TokenPrice.IsMoney, Bool.and_eq_true, isAmount_iff]

/-- The settings break a rule, and the violation says which and where. -/
inductive Settings.Breaks (s : Settings) : Violation → Prop where
  | defaultLimit (bad : ¬ IsMoney s.budget.defaultLimit) :
      Breaks s (.badDefaultLimit s.budget.defaultLimit)
  | tenantLimit {tenant : String} {limit : Float}
      (set : s.budget.tenantLimits.get? tenant = some limit)
      (bad : ¬ IsMoney limit) : Breaks s (.badTenantLimit tenant limit)
  | period (zero : s.budget.periodSecs = 0) : Breaks s .zeroPeriod
  | keyPrefix (empty : s.budget.keyPrefix = "") : Breaks s .emptyKeyPrefix
  | defaultFailMax (zero : s.breaker.defaults.failMax = 0) :
      Breaks s .zeroDefaultFailMax
  | failMax {dependency : String} {thresholds : BreakerThresholds}
      (set : s.breaker.overrides.get? dependency = some thresholds)
      (zero : thresholds.failMax = 0) : Breaks s (.zeroFailMax dependency)
  | redisUrl (selected : s.store.backend = .redis)
      (unset : ∀ url, s.store.redisUrl = some url → url = "") :
      Breaks s .missingRedisUrl
  | defaultProvider (empty : s.routing.defaultProvider = "") :
      Breaks s .emptyDefaultProvider
  | ruleModelPrefix {index : Nat} {rule : RoutingRule}
      (listed : s.routing.rules[index]? = some rule)
      (empty : rule.modelPrefix = "") : Breaks s (.emptyRuleModelPrefix index)
  | ruleProvider {index : Nat} {rule : RoutingRule}
      (listed : s.routing.rules[index]? = some rule)
      (empty : rule.provider = "") : Breaks s (.emptyRuleProvider index)
  | fallbackPrice (bad : ¬ s.pricing.fallback.IsMoney) :
      Breaks s .badFallbackPrice
  | modelPrice {model : String} {price : TokenPrice}
      (set : s.pricing.models.get? model = some price)
      (bad : ¬ price.IsMoney) : Breaks s (.badModelPrice model)

namespace Violation

variable {v : Violation} {first middle last : Nat ×ₗ Nat}
  {violations others : List Violation}

/-- The place of the rule among all rules, and that of the field among those of
all routing rules. -/
def place : Violation → Nat ×ₗ Nat
  | badDefaultLimit _ => toLex (0, 0)
  | badTenantLimit .. => toLex (1, 0)
  | zeroPeriod => toLex (2, 0)
  | emptyKeyPrefix => toLex (3, 0)
  | zeroDefaultFailMax => toLex (4, 0)
  | zeroFailMax _ => toLex (5, 0)
  | missingRedisUrl => toLex (6, 0)
  | emptyDefaultProvider => toLex (7, 0)
  | emptyRuleModelPrefix index => toLex (8, 2 * index)
  | emptyRuleProvider index => toLex (8, 2 * index + 1)
  | badFallbackPrice => toLex (9, 0)
  | badModelPrice _ => toLex (10, 0)

/-- The entry of a map that is at fault, if it is one. -/
def subject : Violation → String
  | badTenantLimit tenant _ => tenant
  | zeroFailMax dependency => dependency
  | badModelPrice model => model
  | _ => ""

theorem mem_sortByMessage : v ∈ sortByMessage violations ↔ v ∈ violations :=
  (sortBy_perm _ _).mem_iff

/-- A list of distinct violations in order, from one place up to another. -/
structure Reports (first last : Nat ×ₗ Nat) (violations : List Violation) :
    Prop where
  within : ∀ v ∈ violations, first ≤ v.place ∧ v.place < last
  inOrder : violations.Pairwise fun v other =>
    v ≠ other ∧ v.place ≤ other.place

namespace Reports

theorem append (one : Reports first middle violations)
    (two : Reports middle last others) (below : first ≤ middle)
    (above : middle ≤ last) : Reports first last (violations ++ others) where
  within v member := by
    rcases List.mem_append.mp member with member | member
    · obtain ⟨after, before⟩ := one.within v member
      exact ⟨after, lt_of_lt_of_le before above⟩
    · obtain ⟨after, before⟩ := two.within v member
      exact ⟨le_trans below after, before⟩
  inOrder := by
    rw [List.pairwise_append]
    refine ⟨one.inOrder, two.inOrder, ?_⟩
    intro v member other otherMember
    have before : v.place < other.place :=
      lt_of_lt_of_le (one.within v member).2 (two.within other otherMember).1
    refine ⟨?_, le_of_lt before⟩
    rintro rfl
    exact lt_irrefl _ before

theorem nil (first last : Nat ×ₗ Nat) : Reports first last [] :=
  ⟨nofun, .nil⟩

theorem singleton (below : first ≤ v.place) (above : v.place < last) :
    Reports first last [v] where
  within other member := by
    rw [List.mem_singleton.mp member]
    exact ⟨below, above⟩
  inOrder := List.pairwise_singleton _ _

theorem broken (below : first ≤ v.place) (above : v.place < last)
    (test : Prop) [Decidable test] :
    Reports first last (if test then [v] else []) := by
  split
  · exact singleton below above
  · exact nil _ _

theorem unkept (below : first ≤ v.place) (above : v.place < last)
    (test : Prop) [Decidable test] :
    Reports first last (if test then [] else [v]) := by
  split
  · exact nil _ _
  · exact singleton below above

theorem entries {α : Type} (m : Assoc α) (place : Nat ×ₗ Nat)
    (violation? : String × α → Option Violation)
    (below : first ≤ place) (above : place < last)
    (own : ∀ e v, violation? e = some v → v.place = place ∧ v.subject = e.1) :
    Reports first last (sortByMessage (m.entries.filterMap violation?)) := by
  have each : ∀ v ∈ sortByMessage (m.entries.filterMap violation?),
      v.place = place := by
    intro v member
    rw [mem_sortByMessage, List.mem_filterMap] at member
    obtain ⟨e, -, found⟩ := member
    exact (own e v found).1
  have distinct : (m.entries.filterMap violation?).Nodup := by
    refine List.Pairwise.filterMap violation? ?_ m.ascending
    rintro e other below v found _ foundToo rfl
    rw [← (own e v found).2, (own other v foundToo).2] at below
    exact String.lt_irrefl _ below
  have sorted : (sortByMessage (m.entries.filterMap violation?)).Nodup :=
    (sortBy_perm _ _).nodup_iff.mpr distinct
  refine ⟨?_, sorted.imp_of_mem ?_⟩
  · intro v member
    rw [each v member]
    exact ⟨below, above⟩
  · intro v other member otherMember different
    refine ⟨different, ?_⟩
    rw [each v member, each other otherMember]

end Reports

end Violation

namespace Settings

open Violation

variable {s : Settings} {v : Violation}

/-! The order of a report -/

theorem reports_ruleViolations (index : Nat) (rules : List RoutingRule) :
    Reports (toLex (8, 2 * index)) (toLex (9, 0))
      (ruleViolations index rules) := by
  induction rules generalizing index with
  | nil => exact .nil _ _
  | cons rule rest ih =>
      have next : (toLex (8, 2 * index) : Nat ×ₗ Nat) <
          toLex (8, 2 * index + 1) := by simp [Prod.Lex.toLex_lt_toLex]
      have after : (toLex (8, 2 * index + 1) : Nat ×ₗ Nat) <
          toLex (8, 2 * (index + 1)) := by
        rw [Prod.Lex.toLex_lt_toLex]
        omega
      have end_ : (toLex (8, 2 * (index + 1)) : Nat ×ₗ Nat) ≤
          toLex (9, 0) := by simp [Prod.Lex.toLex_le_toLex]
      have own :=
        (Reports.broken (v := .emptyRuleModelPrefix index) (le_refl _) next
          (rule.modelPrefix = "")).append
        (Reports.broken (v := .emptyRuleProvider index) (le_refl _) after
          (rule.provider = "")) (le_of_lt next) (le_of_lt after)
      exact own.append (ih (index + 1)) (le_of_lt (next.trans after)) end_

theorem reports_budgetViolations (b : BudgetSettings) :
    Reports (toLex (0, 0)) (toLex (4, 0)) (budgetViolations b) := by
  have limit : Reports (toLex (0, 0)) (toLex (1, 0)) _ :=
    .unkept (v := .badDefaultLimit b.defaultLimit) (le_refl _)
      (show (toLex (0, 0) : Nat ×ₗ Nat) < toLex (1, 0) by decide)
      (isAmount b.defaultLimit)
  have limits : Reports (toLex (1, 0)) (toLex (2, 0)) _ :=
    .entries b.tenantLimits (toLex (1, 0))
      (fun e =>
        if isAmount e.2 then none else some (.badTenantLimit e.1 e.2))
      (le_refl _) (by decide) (by
        intro e v found
        split at found
        · cases found
        · cases found
          exact ⟨rfl, rfl⟩)
  have period : Reports (toLex (2, 0)) (toLex (3, 0)) _ :=
    .broken (v := .zeroPeriod) (le_refl _) (by decide) (b.periodSecs = 0)
  have keyPrefix : Reports (toLex (3, 0)) (toLex (4, 0)) _ :=
    .broken (v := .emptyKeyPrefix) (le_refl _) (by decide) (b.keyPrefix = "")
  exact ((limit.append limits (by decide) (by decide)).append period
    (by decide) (by decide)).append keyPrefix (by decide) (by decide)

theorem reports_breakerViolations (b : BreakerSettings) :
    Reports (toLex (4, 0)) (toLex (6, 0)) (breakerViolations b) := by
  have defaults : Reports (toLex (4, 0)) (toLex (5, 0)) _ :=
    .broken (v := .zeroDefaultFailMax) (le_refl _) (by decide)
      (b.defaults.failMax = 0)
  have overrides : Reports (toLex (5, 0)) (toLex (6, 0)) _ :=
    .entries b.overrides (toLex (5, 0))
      (fun e => if e.2.failMax = 0 then some (.zeroFailMax e.1) else none)
      (le_refl _) (by decide) (by
        intro e v found
        split at found
        · cases found
          exact ⟨rfl, rfl⟩
        · cases found)
  exact defaults.append overrides (by decide) (by decide)

theorem reports_pricingViolations (p : PricingSettings) :
    Reports (toLex (9, 0)) (toLex (11, 0)) (pricingViolations p) := by
  have fallback : Reports (toLex (9, 0)) (toLex (10, 0)) _ :=
    .unkept (v := .badFallbackPrice) (le_refl _) (by decide) p.fallback.isValid
  have models : Reports (toLex (10, 0)) (toLex (11, 0)) _ :=
    .entries p.models (toLex (10, 0))
      (fun e => if e.2.isValid then none else some (.badModelPrice e.1))
      (le_refl _) (by decide) (by
        intro e v found
        split at found
        · cases found
        · cases found
          exact ⟨rfl, rfl⟩)
  exact fallback.append models (by decide) (by decide)

theorem reports_violations (s : Settings) :
    Reports (toLex (0, 0)) (toLex (11, 0)) s.violations := by
  have store : Reports (toLex (6, 0)) (toLex (7, 0))
      (storeViolations s.store) :=
    .broken (v := .missingRedisUrl) (le_refl _) (by decide) _
  have provider : Reports (toLex (7, 0)) (toLex (8, 0)) _ :=
    .broken (v := .emptyDefaultProvider) (le_refl _) (by decide)
      (s.routing.defaultProvider = "")
  have routing := provider.append (reports_ruleViolations 0 s.routing.rules)
    (by decide) (by decide)
  have budget := reports_budgetViolations s.budget
  have breaker := reports_breakerViolations s.breaker
  have pricing := reports_pricingViolations s.pricing
  exact (((budget.append breaker (by decide) (by decide)).append store
    (by decide) (by decide)).append routing (by decide) (by decide)).append
      pricing (by decide) (by decide)

/-! What is reported -/

theorem mem_ruleViolations {rules : List RoutingRule} {index : Nat} :
    v ∈ ruleViolations index rules ↔
      ∃ i rule, rules[i]? = some rule ∧
        (rule.modelPrefix = "" ∧ v = .emptyRuleModelPrefix (index + i) ∨
          rule.provider = "" ∧ v = .emptyRuleProvider (index + i)) := by
  induction rules generalizing index with
  | nil => simp [ruleViolations]
  | cons first rest ih =>
      have here : v ∈ (if first.modelPrefix = "" then
            [emptyRuleModelPrefix index] else []) ++
          (if first.provider = "" then [emptyRuleProvider index] else []) ↔
          first.modelPrefix = "" ∧ v = .emptyRuleModelPrefix index ∨
            first.provider = "" ∧ v = .emptyRuleProvider index := by
        simp [List.mem_append, List.mem_ite_nil_right]
      rw [ruleViolations, List.mem_append, here, ih]
      constructor
      · rintro (found | ⟨i, rule, listed, found⟩)
        · exact ⟨0, first, rfl, found⟩
        · refine ⟨i + 1, rule, listed, ?_⟩
          rw [Nat.add_right_comm, Nat.add_assoc] at found
          exact found
      · rintro ⟨i, rule, listed, found⟩
        cases i with
        | zero =>
            cases listed
            exact .inl found
        | succ i =>
            refine .inr ⟨i, rule, listed, ?_⟩
            rw [Nat.add_right_comm, Nat.add_assoc]
            exact found

theorem mem_entryViolations {α : Type} {m : Assoc α}
    {violation? : String × α → Option Violation} :
    v ∈ sortByMessage (m.entries.filterMap violation?) ↔
      ∃ key value, m.get? key = some value ∧
        violation? (key, value) = some v := by
  simp only [mem_sortByMessage, List.mem_filterMap, Prod.exists,
    Assoc.mem_entries_iff]

theorem mem_violations_iff : v ∈ s.violations ↔ s.Breaks v := by
  simp only [violations, budgetViolations, breakerViolations, storeViolations,
    routingViolations, pricingViolations, List.mem_append, mem_entryViolations,
    mem_ruleViolations, List.mem_ite_nil_left, List.mem_ite_nil_right,
    List.mem_singleton, isAmount_iff, TokenPrice.isValid_iff,
    Option.ite_none_left_eq_some, Option.ite_none_right_eq_some,
    Option.some.injEq, Nat.zero_add, Bool.and_eq_true, decide_eq_true_eq]
  constructor
  · rintro (((((((⟨bad, rfl⟩ | ⟨tenant, limit, set, bad, rfl⟩) | ⟨zero, rfl⟩) |
      ⟨empty, rfl⟩) | ⟨zero, rfl⟩ | ⟨dependency, thresholds, set, zero, rfl⟩) |
      ⟨⟨selected, unset⟩, rfl⟩) | ⟨empty, rfl⟩ |
      ⟨index, rule, listed, ⟨empty, rfl⟩ | ⟨empty, rfl⟩⟩) | ⟨bad, rfl⟩ |
      ⟨model, price, set, bad, rfl⟩)
    · exact .defaultLimit bad
    · exact .tenantLimit set bad
    · exact .period zero
    · exact .keyPrefix empty
    · exact .defaultFailMax zero
    · exact .failMax set zero
    · refine .redisUrl selected ?_
      intro url given
      rw [given] at unset
      exact unset
    · exact .defaultProvider empty
    · exact .ruleModelPrefix listed empty
    · exact .ruleProvider listed empty
    · exact .fallbackPrice bad
    · exact .modelPrice set bad
  · intro breaks
    cases breaks with
    | redisUrl selected unset =>
        have empty : s.store.redisUrl.getD "" = "" := by
          cases given : s.store.redisUrl with
          | none => rfl
          | some url => exact unset url given
        simp [selected, empty]
    | _ => grind

end Settings

end Tollgate
