import Tollgate.Config.Settings
import Tollgate.Number.Layout
import Tollgate.Sorting

/-!
What a settings value must satisfy before a gate runs on it, and every way it
can fall short.
-/

namespace Tollgate

/-- Whether an amount may stand for money: finite and not negative. -/
def isAmount (x : Float) : Bool :=
  x.isFinite && 0 ≤ x

inductive Violation where
  | badDefaultLimit (limit : Float)
  | badTenantLimit (tenant : String) (limit : Float)
  | zeroPeriod
  | emptyKeyPrefix
  | zeroDefaultFailMax
  | zeroFailMax (dependency : String)
  | missingRedisUrl
  | emptyDefaultProvider
  | emptyRuleModelPrefix (index : Nat)
  | emptyRuleProvider (index : Nat)
  | badFallbackPrice
  | badModelPrice (model : String)
deriving DecidableEq

namespace Violation

def limitMessage (scope : String) (limit : Float) : String :=
  s!"limit for {scope} must be finite and non-negative (got " ++
    FloatStyle.plain.render limit ++ ")"

def message : Violation → String
  | badDefaultLimit limit => limitMessage "default" limit
  | badTenantLimit tenant limit => limitMessage s!"tenant '{tenant}'" limit
  | zeroPeriod => "budget.period_secs must be greater than zero"
  | emptyKeyPrefix => "budget.key_prefix must not be empty"
  | zeroDefaultFailMax => "breaker fail_max for defaults must be at least 1"
  | zeroFailMax dependency =>
      s!"breaker fail_max for provider '{dependency}' must be at least 1"
  | missingRedisUrl =>
      "store.redis_url is required when store.backend = \"redis\""
  | emptyDefaultProvider => "routing.default_provider must not be empty"
  | emptyRuleModelPrefix index =>
      s!"routing rule #{index} has an empty model_prefix"
  | emptyRuleProvider index => s!"routing rule #{index} has an empty provider"
  | badFallbackPrice => "price for fallback must be finite and non-negative"
  | badModelPrice model =>
      s!"price for model '{model}' must be finite and non-negative"

/-- The entries of a map may be checked in any order. Of all the orders in which
their violations can come, this is the one by text. -/
def sortByMessage (violations : List Violation) : List Violation :=
  sortBy (fun a b => a.message ≤ b.message) violations

end Violation

def TokenPrice.isValid (p : TokenPrice) : Bool :=
  isAmount p.inputPerMillion && isAmount p.outputPerMillion

namespace Settings

open Violation

def budgetViolations (b : BudgetSettings) : List Violation :=
  (if isAmount b.defaultLimit then [] else [badDefaultLimit b.defaultLimit])
    ++ sortByMessage (b.tenantLimits.entries.filterMap fun (tenant, limit) =>
        if isAmount limit then none else some (badTenantLimit tenant limit))
    ++ (if b.periodSecs = 0 then [zeroPeriod] else [])
    ++ (if b.keyPrefix = "" then [emptyKeyPrefix] else [])

def breakerViolations (b : BreakerSettings) : List Violation :=
  (if b.defaults.failMax = 0 then [zeroDefaultFailMax] else [])
    ++ sortByMessage (b.overrides.entries.filterMap fun (dependency, t) =>
        if t.failMax = 0 then some (zeroFailMax dependency) else none)

def storeViolations (s : StoreSettings) : List Violation :=
  if s.backend = .redis && s.redisUrl.getD "" = "" then [missingRedisUrl]
  else []

def ruleViolations (index : Nat) : List RoutingRule → List Violation
  | [] => []
  | rule :: rest =>
      (if rule.modelPrefix = "" then [emptyRuleModelPrefix index] else [])
        ++ (if rule.provider = "" then [emptyRuleProvider index] else [])
        ++ ruleViolations (index + 1) rest

def routingViolations (r : RoutingSettings) : List Violation :=
  (if r.defaultProvider = "" then [emptyDefaultProvider] else [])
    ++ ruleViolations 0 r.rules

def pricingViolations (p : PricingSettings) : List Violation :=
  (if p.fallback.isValid then [] else [badFallbackPrice])
    ++ sortByMessage (p.models.entries.filterMap fun (model, price) =>
        if price.isValid then none else some (badModelPrice model))

def violations (s : Settings) : List Violation :=
  budgetViolations s.budget ++ breakerViolations s.breaker
    ++ storeViolations s.store ++ routingViolations s.routing
    ++ pricingViolations s.pricing

end Settings

end Tollgate
