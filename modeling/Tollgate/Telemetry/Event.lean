import Tollgate.Breaker.State
import Tollgate.Spend.Store
import Tollgate.Text.Quoted

/-!
What the gate tells about itself: log events, counters and gauges.
-/

namespace Tollgate

inductive LogLevel where
  | error
  | warn
  | info
  | debug
  | trace
deriving DecidableEq

namespace LogLevel

def name : LogLevel → String
  | error => "ERROR"
  | warn => "WARN"
  | info => "INFO"
  | debug => "DEBUG"
  | trace => "TRACE"

/-- More detail has a higher rank. -/
def rank : LogLevel → Nat
  | error => 1
  | warn => 2
  | info => 3
  | debug => 4
  | trace => 5

end LogLevel

inductive FieldValue where
  /-- A text that a log line puts in quotes. -/
  | quoted (text : String)
  /-- A text that a log line shows as it is. -/
  | shown (text : String)
  | number (n : Int)
  | float (x : Float)

inductive LogEvent where
  | starting (version : String)
  | configMissing (path : String)
  | metricsStarted (address : String)
  | metricsFailed (address error : String)
  | metricsAddressInvalid (address error : String)
  | memoryStore
  | gateReady (backend : String) (defaultLimit : Float) (periodSecs failMax : Nat)
  | watching (path : String)
  | configReloaded (path : String)
  | configRejected (path error : String)
  | configurationReloaded
  | adminDisabled
  | adminStarting (address : String)
  | adminDraining
  | adminStopped
  | signalReceived (name : String)
  | shutdownTriggered (subscribers : Nat)
  | shutdownComplete
  | limitsUpdated (defaultLimit : Float) (overrides : Nat)
  | reservationDenied (tenant : String) (error : StoreError)
  | statusUnavailable (tenant : String) (error : StoreError)
  | tripped (dependency : String) (failures failMax : Nat)
  | trialFailed (dependency : String) (failures : Nat)
  | stateChanged (dependency : String) (before after : CircuitState)
  | overBudget (tenant dependency : String) (newTotal limit : Float)
  | ledgerUnavailable (tenant dependency reason : String)
  | circuitOpen (tenant dependency : String) (retryAfterMs : Nat)
  | callFailed (tenant dependency : String)
  | refundFailed (tenant : String) (cost : Float) (reason : String)
      (error : StoreError)
  | refundImpossible (tenant : String) (cost : Float)
  | healthCheckFailed (error : StoreError)
  | breakerCreated (dependency : String)
  | breakerReset (dependency : String)
  | breakerForcedOpen (dependency : String)

namespace LogEvent

def level : LogEvent → LogLevel
  | metricsFailed .. | metricsAddressInvalid .. | configRejected .. => .error
  | configMissing .. | memoryStore | reservationDenied .. | statusUnavailable ..
  | tripped .. | trialFailed .. | ledgerUnavailable .. | callFailed ..
  | refundFailed .. | refundImpossible .. | healthCheckFailed ..
  | breakerForcedOpen .. => .warn
  | breakerCreated .. => .debug
  | _ => .info

def target : LogEvent → String
  | starting .. | configMissing .. | metricsAddressInvalid .. | memoryStore
  | gateReady .. | configurationReloaded | adminDisabled
  | shutdownComplete => "inference_gate"
  | metricsStarted .. | metricsFailed .. =>
      "inference_gate::observability::metrics"
  | watching .. | configReloaded .. | configRejected .. =>
      "inference_gate::config::watcher"
  | adminStarting .. | adminDraining | adminStopped =>
      "inference_gate::http::server"
  | signalReceived .. => "inference_gate::lifecycle::signals"
  | shutdownTriggered .. => "inference_gate::lifecycle::shutdown"
  | limitsUpdated .. | reservationDenied .. | statusUnavailable .. =>
      "inference_gate::budget::ledger"
  | breakerCreated .. => "inference_gate::resilience::registry"
  | tripped .. | trialFailed .. | stateChanged .. =>
      "inference_gate::resilience::circuit_breaker"
  | overBudget .. | ledgerUnavailable .. | circuitOpen .. | callFailed .. =>
      "inference_gate::gate::admission"
  | refundFailed .. | refundImpossible .. => "inference_gate::gate::guard"
  | healthCheckFailed .. | breakerReset .. | breakerForcedOpen .. =>
      "inference_gate::admin::handlers"

def message : LogEvent → String
  | starting .. => "inference-gate starting"
  | configMissing .. => "Config file not found, using defaults"
  | metricsStarted .. => "Metrics endpoint started"
  | metricsFailed .. => "Failed to install metrics exporter"
  | metricsAddressInvalid .. => "Failed to parse metrics address"
  | memoryStore =>
      "Using in-memory spend store; budgets are not shared across instances"
  | gateReady .. => "Admission gate ready"
  | watching .. => "Config watcher started"
  | configReloaded .. => "Config file changed, reloaded"
  | configRejected .. => "Config reload rejected, keeping current config"
  | configurationReloaded => "Configuration reloaded"
  | adminDisabled => "Admin API disabled"
  | adminStarting .. => "Admin server starting"
  | adminDraining => "Admin server draining"
  | adminStopped => "Admin server stopped"
  | signalReceived name => name ++ " received"
  | shutdownTriggered .. => "Shutdown triggered"
  | shutdownComplete => "Shutdown complete"
  | limitsUpdated .. => "Budget limits updated"
  | reservationDenied .. => "Budget store unavailable, denying reservation"
  | statusUnavailable .. => "Budget status unavailable, reporting ok"
  | tripped .. => "Circuit breaker tripped"
  | trialFailed .. => "Trial call failed, circuit breaker re-opened"
  | stateChanged .. => "Circuit breaker state change"
  | overBudget .. => "Budget exceeded, call refused"
  | ledgerUnavailable .. => "Budget ledger unavailable, call refused"
  | circuitOpen .. => "Circuit open, call refused"
  | callFailed .. => "Upstream call failed, reservation rolled back"
  | refundFailed .. => "Failed to roll back reservation"
  | refundImpossible .. => "No runtime to roll back cancelled reservation"
  | healthCheckFailed .. => "Health check failed"
  | breakerCreated .. => "Creating circuit breaker"
  | breakerReset .. => "Breaker reset via admin API"
  | breakerForcedOpen .. => "Breaker forced open via admin API"

def fields : LogEvent → List (String × FieldValue)
  | starting version => [("version", .quoted version)]
  | configMissing path => [("path", .shown (quotedPath path))]
  | metricsStarted address => [("address", .shown address)]
  | metricsFailed address error =>
      [("address", .shown address), ("error", .shown error)]
  | metricsAddressInvalid address error =>
      [("metrics_address", .shown address), ("error", .shown error)]
  | gateReady backend defaultLimit periodSecs failMax =>
      [("backend", .shown backend), ("default_limit", .float defaultLimit),
        ("period_secs", .number periodSecs), ("fail_max", .number failMax)]
  | watching path => [("path", .shown (quotedPath path))]
  | configReloaded path => [("path", .shown (quotedPath path))]
  | configRejected path error =>
      [("path", .shown (quotedPath path)), ("error", .shown error)]
  | adminStarting address => [("address", .shown address)]
  | shutdownTriggered subscribers => [("subscribers", .number subscribers)]
  | limitsUpdated defaultLimit overrides =>
      [("default_limit", .float defaultLimit), ("overrides", .number overrides)]
  | reservationDenied tenant error =>
      [("tenant", .quoted tenant), ("error", .shown error.message)]
  | statusUnavailable tenant error =>
      [("tenant", .quoted tenant), ("error", .shown error.message)]
  | tripped dependency failures failMax =>
      [("dependency", .shown dependency), ("failures", .number failures),
        ("fail_max", .number failMax)]
  | trialFailed dependency failures =>
      [("dependency", .shown dependency), ("failures", .number failures)]
  | stateChanged dependency before after =>
      [("dependency", .shown dependency), ("from", .shown before.name),
        ("to", .shown after.name)]
  | overBudget tenant dependency newTotal limit =>
      [("tenant", .quoted tenant), ("dependency", .quoted dependency),
        ("new_total", .float newTotal), ("limit", .float limit)]
  | ledgerUnavailable tenant dependency reason =>
      [("tenant", .quoted tenant), ("dependency", .quoted dependency),
        ("reason", .shown reason)]
  | circuitOpen tenant dependency retryAfterMs =>
      [("tenant", .quoted tenant), ("dependency", .quoted dependency),
        ("retry_after_ms", .number retryAfterMs)]
  | callFailed tenant dependency =>
      [("tenant", .quoted tenant), ("dependency", .quoted dependency)]
  | refundFailed tenant cost reason error =>
      [("tenant", .shown tenant), ("cost", .float cost),
        ("reason", .quoted reason), ("error", .shown error.message)]
  | refundImpossible tenant cost =>
      [("tenant", .shown tenant), ("cost", .float cost)]
  | healthCheckFailed error => [("error", .shown error.message)]
  | breakerCreated dependency => [("dependency", .quoted dependency)]
  | breakerReset dependency => [("dependency", .shown dependency)]
  | breakerForcedOpen dependency => [("dependency", .shown dependency)]
  | _ => []

end LogEvent

inductive AdmissionOutcome where
  | admitted
  | invalidRequest
  | budgetExceeded
  | ledgerUnavailable
  | breakerOpen
  | operationFailed
deriving DecidableEq

def AdmissionOutcome.name : AdmissionOutcome → String
  | admitted => "admitted"
  | invalidRequest => "invalid_request"
  | budgetExceeded => "budget_exceeded"
  | ledgerUnavailable => "ledger_unavailable"
  | breakerOpen => "breaker_open"
  | operationFailed => "operation_failed"

inductive Counter where
  | admissions (outcome : AdmissionOutcome)
  | rollbacks (reason : String)
  | transitions (dependency : String) (entered : CircuitState)
  | rejections (dependency : String)
deriving DecidableEq

namespace Counter

def name : Counter → String
  | admissions _ => "gate_admissions_total"
  | rollbacks _ => "gate_budget_rollbacks_total"
  | transitions _ _ => "breaker_transitions_total"
  | rejections _ => "breaker_rejections_total"

/-- Labels in ascending order of their names. -/
def labels : Counter → List (String × String)
  | admissions outcome => [("outcome", outcome.name)]
  | rollbacks reason => [("reason", reason)]
  | transitions dependency entered =>
      [("dependency", dependency), ("to", entered.name)]
  | rejections dependency => [("dependency", dependency)]

end Counter

inductive Signal where
  | log (event : LogEvent)
  | count (counter : Counter)
  | gauge (dependency : String) (state : CircuitState)

end Tollgate
