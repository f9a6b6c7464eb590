import Tollgate.Assoc
import Tollgate.Clock

/-!
The settings of a gate, section by section, with their defaults.
-/

namespace Tollgate

structure AdminSettings where
  enabled : Bool := true
  apiKey : String := "CHANGE_ME_IN_PRODUCTION"
  bindAddress : String := "127.0.0.1:8081"

structure BudgetSettings where
  /-- Applies to tenants without a limit of their own. -/
  defaultLimit : Float := 50
  periodSecs : Nat := 86400
  /-- A tenant's spend is stored under `keyPrefix:tenant`. -/
  keyPrefix : String := "budget"
  tenantLimits : Assoc Float := .empty
  /-- Whether a charge that exceeded the limit is taken back. -/
  refundDenied : Bool := false

namespace BudgetSettings

def limitFor (b : BudgetSettings) (tenant : String) : Float :=
  (b.tenantLimits.get? tenant).getD b.defaultLimit

def keyFor (b : BudgetSettings) (tenant : String) : String :=
  b.keyPrefix ++ ":" ++ tenant

def period (b : BudgetSettings) : Nat :=
  Clock.secs b.periodSecs

end BudgetSettings

inductive StoreBackend where
  | memory
  | redis
deriving DecidableEq

structure StoreSettings where
  backend : StoreBackend := .memory
  redisUrl : Option String := none

structure BreakerThresholds where
  failMax : Nat := 5
  resetTimeoutMs : Nat := 60000
  timeWindowMs : Nat := 60000
deriving DecidableEq

structure BreakerSettings where
  defaults : BreakerThresholds := {}
  overrides : Assoc BreakerThresholds := .empty

/-- Models whose name starts so go to this provider. -/
structure RoutingRule where
  modelPrefix : String
  provider : String
deriving DecidableEq

structure RoutingSettings where
  defaultProvider : String := "openai"
  rules : List RoutingRule := [
    ⟨"gpt-", "openai"⟩, ⟨"claude-", "anthropic"⟩, ⟨"gemini-", "google"⟩]

/-- Currency units per million tokens. -/
structure TokenPrice where
  inputPerMillion : Float
  outputPerMillion : Float

structure PricingSettings where
  models : Assoc TokenPrice := .empty
  fallback : TokenPrice := ⟨10, 30⟩

structure ObservabilitySettings where
  logLevel : String := "info"
  jsonLogs : Bool := false
  metricsEnabled : Bool := false
  metricsAddress : String := "0.0.0.0:9090"

structure Settings where
  admin : AdminSettings := {}
  budget : BudgetSettings := {}
  store : StoreSettings := {}
  breaker : BreakerSettings := {}
  routing : RoutingSettings := {}
  pricing : PricingSettings := {}
  observability : ObservabilitySettings := {}

end Tollgate
