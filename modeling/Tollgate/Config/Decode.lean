import Tollgate.Config.Settings
import Tollgate.Toml.Document

/-!
Settings from TOML values. A missing field takes its default, an unknown one is
ignored, and a value of another type makes the whole text unusable. A section
may also be written as a list of its fields in order, and a date stands for a
table without any known field.
-/

namespace Tollgate

open Toml (Value Entries)

namespace Decode

/-! Single values -/

def text : Value → Option String
  | .string s => some s
  | _ => none

def flag : Value → Option Bool
  | .boolean b => some b
  | _ => none

/-- A whole number stands for an amount too. -/
def amount : Value → Option Float
  | .float x => some x
  | .integer n => some (Float.ofInt n)
  | _ => none

def natural (width : Nat) : Value → Option Nat
  | .integer n => if 0 ≤ n && n.toNat < Nat.pow 2 width then some n.toNat else none
  | _ => none

def assoc (item : Value → Option α) : Value → Option (Assoc α)
  | .table _ entries =>
      (entries.mapM (fun e : String × Value =>
        (item e.2).map fun x => (e.1, x))).map Assoc.ofList
  | _ => none

def list (item : Value → Option α) : Value → Option (List α)
  | .array items => items.mapM item
  | .tables items => items.mapM fun entries => item (.table .header entries)
  | _ => none

/-! Sections -/

/-- The fields of a section, by position or by name. -/
abbrev Fields := Nat → String → Option Value

def fields? : Value → Option Fields
  | .table _ entries => some fun _ name => Entries.find? entries name
  | .array items => some fun position _ => items[position]?
  | .tables items => some fun position _ =>
      items[position]?.map (Value.table .header)
  | .datetime => some fun _ _ => none
  | _ => none

def namedFields? : Value → Option Fields
  | .table _ entries => some fun _ name => Entries.find? entries name
  | .datetime => some fun _ _ => none
  | _ => none

def field (fields : Fields) (position : Nat) (name : String)
    (item : Value → Option α) (default : α) : Option α :=
  match fields position name with
  | none => some default
  | some v => item v

def requiredField (fields : Fields) (position : Nat) (name : String)
    (item : Value → Option α) : Option α :=
  (fields position name).bind item

def adminSettings (v : Value) : Option AdminSettings := do
  let f ← fields? v
  let d : AdminSettings := {}
  let enabled ← field f 0 "enabled" flag d.enabled
  let apiKey ← field f 1 "api_key" text d.apiKey
  let bindAddress ← field f 2 "bind_address" text d.bindAddress
  some { enabled, apiKey, bindAddress }

def budgetSettings (v : Value) : Option BudgetSettings := do
  let f ← fields? v
  let d : BudgetSettings := {}
  let defaultLimit ← field f 0 "default_limit" amount d.defaultLimit
  let periodSecs ← field f 1 "period_secs" (natural 64) d.periodSecs
  let keyPrefix ← field f 2 "key_prefix" text d.keyPrefix
  let tenantLimits ← field f 3 "tenant_limits" (assoc amount) d.tenantLimits
  let refundDenied ← field f 4 "refund_denied" flag d.refundDenied
  some { defaultLimit, periodSecs, keyPrefix, tenantLimits, refundDenied }

def backendNamed? : String → Option StoreBackend
  | "memory" => some .memory
  | "redis" => some .redis
  | _ => none

/-- A backend's name, or a table whose only entry has that name and is empty. -/
def storeBackend : Value → Option StoreBackend
  | .string name => backendNamed? name
  | .table _ [(name, .table _ [])] => backendNamed? name
  | .table _ [(name, .array [])] => backendNamed? name
  | _ => none

def storeSettings (v : Value) : Option StoreSettings := do
  let f ← fields? v
  let d : StoreSettings := {}
  let backend ← field f 0 "backend" storeBackend d.backend
  let redisUrl ← field f 1 "redis_url" (fun v => (text v).map some) d.redisUrl
  some { backend, redisUrl }

def thresholds (f : Fields) : Option BreakerThresholds := do
  let d : BreakerThresholds := {}
  let failMax ← field f 0 "fail_max" (natural 32) d.failMax
  let resetTimeoutMs ← field f 1 "reset_timeout_ms" (natural 64) d.resetTimeoutMs
  let timeWindowMs ← field f 2 "time_window_ms" (natural 64) d.timeWindowMs
  some { failMax, resetTimeoutMs, timeWindowMs }

/-- The default thresholds stand in the section itself, next to the overrides. -/
def breakerSettings (v : Value) : Option BreakerSettings := do
  let f ← namedFields? v
  let defaults ← thresholds f
  let overrides ← field f 0 "overrides"
    (assoc fun v => (fields? v).bind thresholds) .empty
  some { defaults, overrides }

def routingRule (v : Value) : Option RoutingRule := do
  let f ← fields? v
  let modelPrefix ← requiredField f 0 "model_prefix" text
  let provider ← requiredField f 1 "provider" text
  some { modelPrefix, provider }

def routingSettings (v : Value) : Option RoutingSettings := do
  let f ← fields? v
  let d : RoutingSettings := {}
  let defaultProvider ← field f 0 "default_provider" text d.defaultProvider
  let rules ← field f 1 "rules" (list routingRule) d.rules
  some { defaultProvider, rules }

def tokenPrice (v : Value) : Option TokenPrice := do
  let f ← fields? v
  let inputPerMillion ← requiredField f 0 "input_per_million" amount
  let outputPerMillion ← requiredField f 1 "output_per_million" amount
  some { inputPerMillion, outputPerMillion }

def pricingSettings (v : Value) : Option PricingSettings := do
  let f ← fields? v
  let d : PricingSettings := {}
  let models ← field f 0 "models" (assoc tokenPrice) d.models
  let fallback ← field f 1 "fallback" tokenPrice d.fallback
  some { models, fallback }

def observabilitySettings (v : Value) : Option ObservabilitySettings := do
  let f ← fields? v
  let d : ObservabilitySettings := {}
  let logLevel ← field f 0 "log_level" text d.logLevel
  let jsonLogs ← field f 1 "json_logs" flag d.jsonLogs
  let metricsEnabled ← field f 2 "metrics_enabled" flag d.metricsEnabled
  let metricsAddress ← field f 3 "metrics_address" text d.metricsAddress
  some { logLevel, jsonLogs, metricsEnabled, metricsAddress }

def settings (entries : Entries) : Option Settings := do
  let f : Fields := fun _ name => entries.find? name
  let admin ← field f 0 "admin" adminSettings {}
  let budget ← field f 1 "budget" budgetSettings {}
  let store ← field f 2 "store" storeSettings {}
  let breaker ← field f 3 "breaker" breakerSettings {}
  let routing ← field f 4 "routing" routingSettings {}
  let pricing ← field f 5 "pricing" pricingSettings {}
  let observability ← field f 6 "observability" observabilitySettings {}
  some { admin, budget, store, breaker, routing, pricing, observability }

end Decode

end Tollgate
