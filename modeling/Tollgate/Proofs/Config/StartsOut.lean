import Tollgate.Proofs.Config.Beginning

/-!
Settings from documents of which one is a part of the other: where each single
setting stands, and what became of all of them.
-/

namespace Tollgate

open Toml (Value Entries Place Step Torn)

/-! Where single settings stand -/

def Threshold.named? : String → Option Threshold
  | "fail_max" => some failMax
  | "reset_timeout_ms" => some resetTimeout
  | "time_window_ms" => some timeWindow
  | _ => none

namespace Setting

def named? : String → String → Option Setting
  | "admin", "enabled" => some adminEnabled
  | "admin", "api_key" => some adminKey
  | "admin", "bind_address" => some adminAddress
  | "budget", "default_limit" => some defaultLimit
  | "budget", "period_secs" => some period
  | "budget", "key_prefix" => some keyPrefix
  | "budget", "refund_denied" => some refundDenied
  | "store", "redis_url" => some redisUrl
  | "breaker", name => (Threshold.named? name).map threshold
  | "routing", "default_provider" => some defaultProvider
  | "observability", "log_level" => some logLevel
  | "observability", "json_logs" => some jsonLogs
  | "observability", "metrics_enabled" => some metricsEnabled
  | "observability", "metrics_address" => some metricsAddress
  | _, _ => none

def ofRule? (position : Nat) : String → Option Setting
  | "model_prefix" => some (rulePrefix position)
  | "provider" => some (ruleProvider position)
  | _ => none

def ofModel? (model : String) : String → Option Setting
  | "input_per_million" => some (inputPrice model)
  | "output_per_million" => some (outputPrice model)
  | _ => none

def ofFallback? : String → Option Setting
  | "input_per_million" => some fallbackInput
  | "output_per_million" => some fallbackOutput
  | _ => none

/-- The single setting in a place of a document. A section's own tables may stand
under their names or in their positions. -/
def at? : List Step → Option Setting
  | [.key heading, .key name] => named? heading name
  | [.key "budget", _, .key tenant] => some (tenantLimit tenant)
  | [.key "breaker", _, .key dependency, .key name] =>
      (Threshold.named? name).map (override dependency)
  | [.key "routing", _, .item position, .key name] => ofRule? position name
  | [.key "pricing", .key "fallback", .key name]
  | [.key "pricing", .item 1, .key name] => ofFallback? name
  | [.key "pricing", .key "models", .key model, .key name]
  | [.key "pricing", .item 0, .key model, .key name] => ofModel? model name
  | _ => none

def cut? (place : Place) : Option Cut :=
  place.bind fun spot =>
    (at? spot.way).map fun s => ⟨s, spot.text, spot.more⟩

variable {step : Step}

end Setting

namespace Decode

variable {α : Type} {place : Place} {p b : Settings}

/-! Torn values -/

section
variable {e e' : Entries} (within : Entries.Within place e e')
include within

end

end Decode

end Tollgate
