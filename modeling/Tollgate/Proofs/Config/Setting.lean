import Tollgate.Assoc.Lemmas
import Tollgate.Config.Decode
import Tollgate.Proofs.Toml.Torn

/-!
Settings one by one, and settings of which others are the beginning: each is the
same, or as if it had not been written, but for one that may be cut short.
-/

namespace Tollgate

inductive Threshold where
  | failMax
  | resetTimeout
  | timeWindow

/-- A single setting. One of a tenant, a dependency, a model or a rule is there
only if it is written. -/
inductive Setting where
  | adminEnabled
  | adminKey
  | adminAddress
  | defaultLimit
  | period
  | keyPrefix
  | tenantLimit (tenant : String)
  | refundDenied
  | backend
  | redisUrl
  | threshold (which : Threshold)
  | override (dependency : String) (which : Threshold)
  | defaultProvider
  | rulePrefix (position : Nat)
  | ruleProvider (position : Nat)
  | inputPrice (model : String)
  | outputPrice (model : String)
  | fallbackInput
  | fallbackOutput
  | logLevel
  | jsonLogs
  | metricsEnabled
  | metricsAddress

inductive Leaf where
  | flag (value : Bool)
  | text (value : String)
  | number (value : Float)
  | count (value : Nat)
  | backend (value : StoreBackend)

def BreakerThresholds.get (t : BreakerThresholds) : Threshold → Nat
  | .failMax => t.failMax
  | .resetTimeout => t.resetTimeoutMs
  | .timeWindow => t.timeWindowMs

namespace Settings

def get (s : Settings) : Setting → Option Leaf
  | .adminEnabled => some (.flag s.admin.enabled)
  | .adminKey => some (.text s.admin.apiKey)
  | .adminAddress => some (.text s.admin.bindAddress)
  | .defaultLimit => some (.number s.budget.defaultLimit)
  | .period => some (.count s.budget.periodSecs)
  | .keyPrefix => some (.text s.budget.keyPrefix)
  | .tenantLimit tenant => (s.budget.tenantLimits.get? tenant).map .number
  | .refundDenied => some (.flag s.budget.refundDenied)
  | .backend => some (.backend s.store.backend)
  | .redisUrl => s.store.redisUrl.map .text
  | .threshold which => some (.count (s.breaker.defaults.get which))
  | .override dependency which =>
      (s.breaker.overrides.get? dependency).map fun t => .count (t.get which)
  | .defaultProvider => some (.text s.routing.defaultProvider)
  | .rulePrefix position =>
      s.routing.rules[position]?.map fun r => .text r.modelPrefix
  | .ruleProvider position =>
      s.routing.rules[position]?.map fun r => .text r.provider
  | .inputPrice model =>
      (s.pricing.models.get? model).map fun p => .number p.inputPerMillion
  | .outputPrice model =>
      (s.pricing.models.get? model).map fun p => .number p.outputPerMillion
  | .fallbackInput => some (.number s.pricing.fallback.inputPerMillion)
  | .fallbackOutput => some (.number s.pricing.fallback.outputPerMillion)
  | .logLevel => some (.text s.observability.logLevel)
  | .jsonLogs => some (.flag s.observability.jsonLogs)
  | .metricsEnabled => some (.flag s.observability.metricsEnabled)
  | .metricsAddress => some (.text s.observability.metricsAddress)

section
variable {s : Settings}

end

end Settings

/-- A setting that was cut short, with what was there of the text of its value
and what was missing behind that. -/
structure Cut where
  setting : Setting
  text : List Char
  more : List Char

theorem eq_of_map_eq {α β ι : Type} {f : ι → α → β} {x y : Option α} (i : ι)
    (apart : ∀ a b, (∀ i, f i a = f i b) → a = b)
    (same : ∀ i, x.map (f i) = y.map (f i)) : x = y := by
  cases x with
  | none =>
      cases y with
      | none => rfl
      | some b => cases same i
  | some a =>
      cases y with
      | none => cases same i
      | some b => exact congrArg some (apart a b fun i => Option.some.inj (same i))

theorem BreakerThresholds.ext_get {t u : BreakerThresholds}
    (same : ∀ which, t.get which = u.get which) : t = u := by
  obtain ⟨⟩ := t
  obtain ⟨⟩ := u
  have failMax := same .failMax
  have resetTimeout := same .resetTimeout
  have timeWindow := same .timeWindow
  simp_all [BreakerThresholds.get]

section
variable {p b : Settings} (same : ∀ s, p.get s = b.get s)
include same

theorem Settings.admin_eq : p.admin = b.admin := by
  have enabled := same .adminEnabled
  have key := same .adminKey
  have address := same .adminAddress
  obtain ⟨⟨⟩, _⟩ := p
  obtain ⟨⟨⟩, _⟩ := b
  simp_all [Settings.get]

theorem Settings.budget_eq : p.budget = b.budget := by
  have limit := same .defaultLimit
  have period := same .period
  have keyPrefix := same .keyPrefix
  have refund := same .refundDenied
  have limits : p.budget.tenantLimits = b.budget.tenantLimits := by
    apply Assoc.ext_get?
    intro tenant
    exact Option.map_injective (fun _ _ => Leaf.number.inj)
      (same (.tenantLimit tenant))
  obtain ⟨_, ⟨⟩, _⟩ := p
  obtain ⟨_, ⟨⟩, _⟩ := b
  simp_all [Settings.get]

theorem Settings.store_eq : p.store = b.store := by
  have backend := same .backend
  have url : p.store.redisUrl = b.store.redisUrl :=
    Option.map_injective (fun _ _ => Leaf.text.inj) (same .redisUrl)
  obtain ⟨_, _, ⟨⟩, _⟩ := p
  obtain ⟨_, _, ⟨⟩, _⟩ := b
  simp_all [Settings.get]

theorem Settings.breaker_eq : p.breaker = b.breaker := by
  have defaults : p.breaker.defaults = b.breaker.defaults :=
    BreakerThresholds.ext_get fun which =>
      Leaf.count.inj (Option.some.inj (same (.threshold which)))
  have overrides : p.breaker.overrides = b.breaker.overrides := by
    apply Assoc.ext_get?
    intro dependency
    refine eq_of_map_eq Threshold.failMax (fun _ _ equal => ?_)
      fun which => same (.override dependency which)
    exact BreakerThresholds.ext_get fun which => Leaf.count.inj (equal which)
  obtain ⟨_, _, _, ⟨⟩, _⟩ := p
  obtain ⟨_, _, _, ⟨⟩, _⟩ := b
  simp_all

theorem Settings.routing_eq : p.routing = b.routing := by
  have provider := same .defaultProvider
  have rules : p.routing.rules = b.routing.rules := by
    apply List.ext_getElem?
    intro position
    refine eq_of_map_eq (f := fun (first : Bool) (r : RoutingRule) =>
        Leaf.text (if first then r.modelPrefix else r.provider)) true
      (fun r r' equal => ?_) fun first => ?_
    · have modelPrefix := Leaf.text.inj (equal true)
      have provider := Leaf.text.inj (equal false)
      obtain ⟨⟩ := r
      obtain ⟨⟩ := r'
      simp_all
    · cases first with
      | true => exact same (.rulePrefix position)
      | false => exact same (.ruleProvider position)
  obtain ⟨_, _, _, _, ⟨⟩, _⟩ := p
  obtain ⟨_, _, _, _, ⟨⟩, _⟩ := b
  simp_all [Settings.get]

theorem Settings.pricing_eq : p.pricing = b.pricing := by
  have input := same .fallbackInput
  have output := same .fallbackOutput
  have models : p.pricing.models = b.pricing.models := by
    apply Assoc.ext_get?
    intro model
    refine eq_of_map_eq (f := fun (first : Bool) (t : TokenPrice) =>
        Leaf.number (if first then t.inputPerMillion else t.outputPerMillion)) true
      (fun t t' equal => ?_) fun first => ?_
    · have input := Leaf.number.inj (equal true)
      have output := Leaf.number.inj (equal false)
      obtain ⟨⟩ := t
      obtain ⟨⟩ := t'
      simp_all
    · cases first with
      | true => exact same (.inputPrice model)
      | false => exact same (.outputPrice model)
  obtain ⟨_, _, _, _, _, ⟨_, ⟨⟩⟩, _⟩ := p
  obtain ⟨_, _, _, _, _, ⟨_, ⟨⟩⟩, _⟩ := b
  simp_all [Settings.get]

theorem Settings.observability_eq : p.observability = b.observability := by
  have level := same .logLevel
  have json := same .jsonLogs
  have metrics := same .metricsEnabled
  have address := same .metricsAddress
  obtain ⟨_, _, _, _, _, _, ⟨⟩⟩ := p
  obtain ⟨_, _, _, _, _, _, ⟨⟩⟩ := b
  simp_all [Settings.get]

/-- Settings are the same if every single one is. -/
theorem Settings.ext_get : p = b := by
  have admin := admin_eq same
  have budget := budget_eq same
  have store := store_eq same
  have breaker := breaker_eq same
  have routing := routing_eq same
  have pricing := pricing_eq same
  have observability := observability_eq same
  obtain ⟨⟩ := p
  obtain ⟨⟩ := b
  simp_all

end

end Tollgate
