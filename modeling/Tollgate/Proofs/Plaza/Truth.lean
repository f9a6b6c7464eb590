import Tollgate.Proofs.Breaker.Story
import Tollgate.Proofs.Plaza.Basic

/-!
The metrics and the log tell the truth. After any run the metrics page shows
the state of every breaker, how often each state was entered, which the log
shows as one chain of changes, how many attempts were refused, how many
admissions have ended, and how many charges were taken back.
-/

namespace Tollgate

def Fact.isCompletion : Fact → Bool
  | completed _ => true
  | _ => false

/-- How often counters of a name go up with the signals. -/
def countsNamed (name : String) (signals : List Signal) : Nat :=
  (Telemetry.counts { signals }).countP (·.name = name)

theorem countsNamed_append (name : String) (told more : List Signal) :
    countsNamed name (told ++ more) =
      countsNamed name told + countsNamed name more := by
  unfold countsNamed Telemetry.counts
  rw [List.filterMap_append, List.countP_append]

theorem countsNamed_of_isBreakers {told : List Signal}
    (each : ∀ signal ∈ told, signal.isBreakers) {name : String}
    (own : name = "gate_admissions_total" ∨
      name = "gate_budget_rollbacks_total") :
    countsNamed name told = 0 := by
  unfold countsNamed
  rw [List.countP_eq_zero]
  intro counter member
  obtain ⟨signal, inside, counted⟩ := List.mem_filterMap.mp member
  have breakers := each signal inside
  cases signal with
  | log | gauge => cases counted
  | count other =>
      cases counted
      cases counter with
      | admissions | rollbacks => cases breakers
      | transitions | rejections =>
          rcases own with rfl | rfl <;> simp [Counter.name]

theorem RegistryOp.count_facts (op : RegistryOp) (reply : RegistryReply)
    (dependency : String) :
    (op.facts reply).count (.refused dependency) =
      if op.refused? reply = some dependency then 1 else 0 := by
  unfold facts
  cases op.refused? reply with
  | none => rfl
  | some name => simp [List.count_singleton]

theorem RegistryOp.facts_refused (op : RegistryOp) (reply : RegistryReply) :
    (op.facts reply).countP (·.isCompletion) = 0 ∧
      (op.facts reply).count .refunded = 0 := by
  unfold facts
  cases op.refused? reply with
  | none => exact ⟨rfl, rfl⟩
  | some name => exact ⟨rfl, rfl⟩

/-- What has been told agrees with the facts and with the breakers. -/
structure Truthful (facts : List Fact) (r : Registry) (told : List Signal) :
    Prop where
  keyed : r.Keyed
  story : ∀ dependency, Story dependency told
    (facts.count (.refused dependency))
    ((r.get? dependency).map (·.state))
  admissions : countsNamed "gate_admissions_total" told =
    facts.countP (·.isCompletion)
  rollbacks : countsNamed "gate_budget_rollbacks_total" told =
    facts.count .refunded

namespace Truthful

variable {facts more : List Fact} {r : Registry} {told : List Signal}

theorem nothing (settings : BreakerSettings) :
    Truthful [] (.ofSettings settings) [] where
  keyed := nofun
  story _ := .nothing
  admissions := rfl
  rollbacks := rfl

theorem signal (truthful : Truthful facts r told) (signal : Signal)
    (plain : signal.breaker? = none)
    (attempts : ∀ dependency, more.count (.refused dependency) = 0)
    (admissions : countsNamed "gate_admissions_total" [signal] =
      more.countP (·.isCompletion))
    (rollbacks : countsNamed "gate_budget_rollbacks_total" [signal] =
      more.count .refunded) :
    Truthful (facts ++ more) r (told ++ [signal]) where
  keyed := truthful.keyed
  story dependency := by
    rw [List.count_append, attempts, Nat.add_zero]
    refine (truthful.story dependency).other signal ?_
    rw [plain]
    exact nofun
  admissions := by
    rw [countsNamed_append, List.countP_append, truthful.admissions, admissions]
  rollbacks := by
    rw [countsNamed_append, List.count_append, truthful.rollbacks, rollbacks]

theorem log (truthful : Truthful facts r told) (event : LogEvent)
    (plain : (Signal.log event).breaker? = none) :
    Truthful facts r (told ++ [.log event]) := by
  rw [← List.append_nil facts]
  exact truthful.signal _ plain (fun _ => rfl) rfl rfl

theorem perform (truthful : Truthful facts r told) (now : Nat)
    (op : RegistryOp) :
    Truthful (facts ++ op.facts (r.perform now op).1) (r.perform now op).2.2
      (told ++ (r.perform now op).2.1) where
  keyed := truthful.keyed.perform now op
  story dependency := by
    rw [List.count_append, op.count_facts]
    exact (truthful.story dependency).perform truthful.keyed now op
  admissions := by
    rw [countsNamed_append, List.countP_append, (op.facts_refused _).1,
      countsNamed_of_isBreakers (r.perform_isBreakers now op) (.inl rfl),
      truthful.admissions]
  rollbacks := by
    rw [countsNamed_append, List.count_append, (op.facts_refused _).2,
      countsNamed_of_isBreakers (r.perform_isBreakers now op) (.inr rfl),
      truthful.rollbacks]

theorem overflow (truthful : Truthful facts r told) :
    Truthful (facts ++ [.overflowed]) r told where
  keyed := truthful.keyed
  story dependency := by
    rw [List.count_append]
    exact truthful.story dependency
  admissions := by
    rw [List.countP_append]
    exact truthful.admissions
  rollbacks := by
    rw [List.count_append]
    exact truthful.rollbacks

end Truthful

namespace Gate

variable {g h : Gate} {facts more : List Fact}

def IsTruthful (g : Gate) (facts : List Fact) : Prop :=
  Truthful facts g.registry g.telemetry.signals

theorem IsTruthful.speaks (truthful : g.IsTruthful facts)
    (speaks : g.Speaks more h) : h.IsTruthful (facts ++ more) := by
  induction speaks with
  | refl =>
      rw [List.append_nil]
      exact truthful
  | logs speaks event plain ih => exact Truthful.log ih event plain
  | reads speaks read ih => exact ih
  | store speaks op fair ih => exact ih
  | @registry _ h speaks op ih =>
      rw [← List.append_assoc]
      exact Truthful.perform ih h.now op
  | overflows speaks late ih =>
      rw [← List.append_assoc]
      exact Truthful.overflow ih
  | refunds speaks reason ih =>
      rw [← List.append_assoc]
      exact Truthful.signal ih _ rfl (fun _ => rfl) rfl rfl
  | completes speaks outcome ih =>
      rw [← List.append_assoc]
      exact Truthful.signal ih _ rfl (fun _ => rfl) rfl rfl

theorem IsTruthful.undergoes (truthful : g.IsTruthful facts)
    (undergoes : g.Undergoes h) : h.IsTruthful facts := by
  unfold IsTruthful at truthful ⊢
  rw [undergoes.registry]
  rcases undergoes.signals with signals | ⟨limit, overrides, signals⟩
  · rw [signals]
    exact truthful
  · rw [signals]
    exact truthful.log _ rfl

end Gate

namespace Plaza

/-- After any run, whatever the settings: the gauge of a dependency shows the
state of its breaker. The changes of the state that were logged lead from closed
to that state, and each state was entered as often as its counter says. The
breaker has refused as many attempts as are counted. And all admissions that
have ended are counted, and all refunds that the store has answered. Of a
dependency that has no breaker nothing is told. -/
theorem tells_the_truth (settings : Settings) (events : List PlazaEvent) :
    let facts := ((ofSettings settings).run events).1
    let gate := ((ofSettings settings).run events).2.gate
    let told := gate.telemetry
    (∀ dependency,
      let state := (gate.registry.get? dependency).map (·.state)
      let labels := [("dependency", dependency)]
      valueOf told.gauges "breaker_state" labels = state ∧
      CircuitState.closed.Leads (told.changes dependency)
        (state.getD .closed) ∧
      (∀ entered : CircuitState,
        (valueOf told.counters "breaker_transitions_total"
            (labels ++ [("to", entered.name)])).getD 0 =
          (told.changes dependency).countP (·.2 = entered)) ∧
      (valueOf told.counters "breaker_rejections_total" labels).getD 0 =
        facts.count (.refused dependency)) ∧
    totalOf told.counters "gate_admissions_total" =
      facts.countP (·.isCompletion) ∧
    totalOf told.counters "gate_budget_rollbacks_total" =
      facts.count .refunded := by
  intro facts gate told
  have begins : (ofSettings settings).gate.IsTruthful [] :=
    Truthful.nothing settings.breaker
  have amounts : (ofSettings settings).ChargesAmounts := nofun
  have truthful : gate.IsTruthful facts :=
    run_invariant (P := fun facts gate => gate.IsTruthful facts)
      (fun _ _ _ _ => Gate.IsTruthful.speaks)
      (fun _ _ _ => Gate.IsTruthful.undergoes) amounts [] begins events
  refine ⟨?_, ?_, ?_⟩
  · intro dependency state labels
    have story := truthful.story dependency
    refine ⟨?_, story.leads, ?_, ?_⟩
    · rw [told.valueOf_gauges]
      exact story.gauge
    · intro entered
      exact (told.valueOf_counters (.transitions dependency entered)).trans
        (story.transitions entered)
    · exact (told.valueOf_counters (.rejections dependency)).trans
        story.rejections
  · rw [told.totalOf_counters]
    exact truthful.admissions
  · rw [told.totalOf_counters]
    exact truthful.rollbacks

/-- The breaker is opened under an admission that has been charged. -/
example :
    let (facts, last) := (ofSettings {}).run [
      .move (.arrive "acme" "openai" 1),
      .step (.breaker "openai" (.ask .forceOpen)),
      .move (.askBreaker 0), .move (.poll 0), .move (.refund 0 0),
      .move (.settle 0)]
    let told := last.gate.telemetry
    facts = [.refused "openai", .refunded, .completed .breakerOpen] ∧
      told.changes "openai" = [(.closed, .opened)] ∧
      totalOf told.counters "gate_budget_rollbacks_total" = 1 := by
  decide +kernel

end Plaza

end Tollgate
