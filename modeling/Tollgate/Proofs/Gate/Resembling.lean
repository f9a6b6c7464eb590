import Tollgate.Proofs.Breaker.Aging
import Tollgate.Proofs.Spend.Resembling
import Tollgate.Proofs.Telemetry.Reading

/-!
Gates that no answer tells apart. They may differ in what time has made
meaningless, entries whose periods have ended and failures that have gone stale,
and in their logs. Whatever two such gates are asked, they answer alike and go
on to resemble each other.
-/

namespace Tollgate

namespace Telemetry

structure SameMeters (t u : Telemetry) : Prop where
  counts : t.counts = u.counts
  gaugings : t.gaugings = u.gaugings

variable {t u v : Telemetry}

namespace SameMeters

theorem refl (t : Telemetry) : t.SameMeters t := ⟨rfl, rfl⟩

theorem trans (first : t.SameMeters u) (second : u.SameMeters v) :
    t.SameMeters v :=
  ⟨first.counts.trans second.counts, first.gaugings.trans second.gaugings⟩

theorem add (same : t.SameMeters u) (signals : List Signal) :
    (t.add signals).SameMeters (u.add signals) where
  counts := by rw [counts_add, counts_add, same.counts]
  gaugings := by rw [gaugings_add, gaugings_add, same.gaugings]

theorem log (t : Telemetry) (event : LogEvent) :
    (t.add [.log event]).SameMeters t where
  counts := (t.counts_add _).trans (List.append_nil _)
  gaugings := (t.gaugings_add _).trans (List.append_nil _)

theorem counters (same : t.SameMeters u) : t.counters = u.counters := by
  unfold Telemetry.counters countOf
  rw [same.counts]

theorem gauges (same : t.SameMeters u) : t.gauges = u.gauges := by
  unfold Telemetry.gauges gaugeOf
  rw [same.gaugings]

end SameMeters

end Telemetry

inductive Agree {α σ : Type} (alike : σ → σ → Prop) :
    α × σ → α × σ → Prop where
  | intro (answer : α) {s t : σ} (after : alike s t) :
      Agree alike (answer, s) (answer, t)

namespace Agree

variable {α σ : Type} {alike : σ → σ → Prop} {x y : α × σ}

theorem of (answers : x.1 = y.1) (after : alike x.2 y.2) : Agree alike x y := by
  obtain ⟨a, s⟩ := x
  obtain ⟨b, t⟩ := y
  cases answers
  exact .intro a after

theorem answers (agree : Agree alike x y) : x.1 = y.1 := by
  cases agree
  rfl

theorem after (agree : Agree alike x y) : alike x.2 y.2 := by
  cases agree
  assumption

end Agree

namespace Gate

structure Resembles (g h : Gate) : Prop where
  now : g.now = h.now
  ledgers : g.ledger.Resembles g.now h.ledger
  registries : g.registry.prune g.now = h.registry.prune g.now
  providers : g.providers = h.providers
  prices : g.prices = h.prices
  admin : g.admin = h.admin
  meters : g.telemetry.SameMeters h.telemetry

variable {α : Type} {g h k : Gate}

namespace Resembles

theorem refl (g : Gate) : g.Resembles g where
  now := rfl
  ledgers := .refl _ _
  registries := rfl
  providers := rfl
  prices := rfl
  admin := rfl
  meters := .refl _

theorem trans (first : g.Resembles h) (second : h.Resembles k) :
    g.Resembles k where
  now := first.now.trans second.now
  ledgers := first.ledgers.trans (first.now ▸ second.ledgers)
  registries := first.registries.trans (first.now ▸ second.registries)
  providers := first.providers.trans second.providers
  prices := first.prices.trans second.prices
  admin := first.admin.trans second.admin
  meters := first.meters.trans second.meters

theorem advance (same : g.Resembles h) (duration : Nat) :
    (g.advance duration).Resembles (h.advance duration) :=
  have passed : g.now ≤ g.now + duration := Nat.le_add_right _ _
  { same with
    now := congrArg (· + duration) same.now
    ledgers := { same.ledgers with stores := same.ledgers.stores.mono passed }
    registries := Registry.prune_eq_later same.registries passed }

theorem tell (same : g.Resembles h) (signals : List Signal) :
    (g.tell signals).Resembles (h.tell signals) :=
  { same with meters := same.meters.add signals }

theorem log (g : Gate) (event : LogEvent) :
    (g.tell [.log event]).Resembles g :=
  { refl g with meters := .log _ _ }

/-! The ledger and the registry are asked in the same way. -/

theorem asksLedger (same : g.Resembles h)
    (ask : Nat → Ledger → α × List Signal × Ledger)
    (alike : (ask g.now g.ledger).1 = (ask g.now h.ledger).1 ∧
      (ask g.now g.ledger).2.1 = (ask g.now h.ledger).2.1 ∧
      (ask g.now g.ledger).2.2.Resembles g.now (ask g.now h.ledger).2.2) :
    Agree Resembles
      ((ask g.now g.ledger).1,
        { g with ledger := (ask g.now g.ledger).2.2 }.tell
          (ask g.now g.ledger).2.1)
      ((ask h.now h.ledger).1,
        { h with ledger := (ask h.now h.ledger).2.2 }.tell
          (ask h.now h.ledger).2.1) := by
  obtain ⟨answers, signals, ledgers⟩ := alike
  obtain ⟨now, ledger, registry, providers, prices, admin, telemetry⟩ := h
  obtain rfl : g.now = now := same.now
  have kept : Resembles { g with ledger := (ask g.now g.ledger).2.2 }
      { now := g.now, ledger := (ask g.now ledger).2.2, registry, providers,
        prices, admin, telemetry } := { same with ledgers }
  refine .of answers ?_
  rw [signals]
  exact kept.tell _

theorem asksRegistry (same : g.Resembles h)
    (ask : Nat → Registry → α × List Signal × Registry)
    (alike : (ask g.now g.registry).1 = (ask g.now h.registry).1 ∧
      (ask g.now g.registry).2.1 = (ask g.now h.registry).2.1 ∧
      (ask g.now g.registry).2.2.prune g.now =
        (ask g.now h.registry).2.2.prune g.now) :
    Agree Resembles
      ((ask g.now g.registry).1,
        { g with registry := (ask g.now g.registry).2.2 }.tell
          (ask g.now g.registry).2.1)
      ((ask h.now h.registry).1,
        { h with registry := (ask h.now h.registry).2.2 }.tell
          (ask h.now h.registry).2.1) := by
  obtain ⟨answers, signals, registries⟩ := alike
  obtain ⟨now, ledger, registry, providers, prices, admin, telemetry⟩ := h
  obtain rfl : g.now = now := same.now
  have kept : Resembles { g with registry := (ask g.now g.registry).2.2 }
      { now := g.now, ledger, registry := (ask g.now registry).2.2, providers,
        prices, admin, telemetry } := { same with registries }
  refine .of answers ?_
  rw [signals]
  exact kept.tell _

/-! Ledger -/

theorem reserve (same : g.Resembles h) (lasting : 0 < g.ledger.budget.period)
    (tenant : String) (cost : Float) :
    Agree Resembles (g.reserve tenant cost) (h.reserve tenant cost) :=
  same.asksLedger (fun now l => l.reserve now tenant cost)
    (same.ledgers.reserve lasting tenant cost)

theorem release (same : g.Resembles h) (tenant : String) (cost : Float)
    (period : Option Nat) :
    Agree Resembles (g.release tenant cost period)
      (h.release tenant cost period) := by
  obtain ⟨answers, ledgers⟩ := same.ledgers.release tenant cost period
  have asked := same.asksLedger
    (fun now l =>
      ((l.release now tenant cost period).1, [],
        (l.release now tenant cost period).2))
    ⟨answers, rfl, ledgers⟩
  rw [tell_nil, tell_nil] at asked
  exact asked

theorem budgetStatus (same : g.Resembles h) (tenant : String) :
    Agree Resembles (g.budgetStatus tenant) (h.budgetStatus tenant) :=
  same.asksLedger (fun now l => l.status now tenant)
    (same.ledgers.status tenant)

theorem spendSnapshot (same : g.Resembles h) (tenant : String) :
    Agree Resembles (g.spendSnapshot tenant) (h.spendSnapshot tenant) := by
  obtain ⟨answers, ledgers⟩ := same.ledgers.snapshot tenant
  have asked := same.asksLedger
    (fun now l => ((l.snapshot now tenant).1, [], (l.snapshot now tenant).2))
    ⟨answers, rfl, ledgers⟩
  rw [tell_nil, tell_nil] at asked
  exact asked

theorem updateBudget (same : g.Resembles h) (budget : BudgetSettings) :
    (g.updateBudget budget).Resembles (h.updateBudget budget) := by
  have kept : Resembles { g with ledger := { g.ledger with budget } }
      { h with ledger := { h.ledger with budget } } :=
    { same with ledgers := { same.ledgers with budget := rfl } }
  exact kept.tell _

theorem reload (same : g.Resembles h) (settings : Settings) :
    (g.reload settings).Resembles (h.reload settings) :=
  { same.updateBudget settings.budget with admin := rfl }

theorem refund (same : g.Resembles h) (hold : Hold) (reason : String) :
    (g.refund hold reason).Resembles (h.refund hold reason) := by
  have released := same.release hold.tenant hold.cost (some hold.period)
  unfold Gate.refund
  generalize g.release _ _ _ = x at released ⊢
  generalize h.release _ _ _ = y at released ⊢
  obtain ⟨answer, after⟩ := released
  cases answer with
  | ok total => exact after.tell _
  | error error =>
      cases error with
      | store error => exact after.tell _
      | invalidCost cost => exact after
      | clockOverflow => exact after

/-! Breakers -/

theorem askBreaker (same : g.Resembles h) (dependency : String)
    (op : BreakerOp) :
    Agree Resembles (g.askBreaker dependency op)
      (h.askBreaker dependency op) := by
  rw [askBreaker_eq, askBreaker_eq]
  exact same.asksRegistry (fun now r => r.ask now dependency op)
    (Registry.ask_of_prune_eq same.registries dependency op)

theorem breaker (same : g.Resembles h) (dependency : String) :
    (g.breaker dependency).1.prune g.now =
        (h.breaker dependency).1.prune g.now ∧
      (g.breaker dependency).2.Resembles (h.breaker dependency).2 := by
  obtain ⟨found, signals, made⟩ :=
    Registry.getOrCreate_of_prune_eq same.registries dependency
  have asked := same.asksRegistry
    (fun _ r => ((), (r.getOrCreate dependency).2))
    ⟨rfl, signals, made⟩
  exact ⟨found, asked.after⟩

theorem acquire (same : g.Resembles h) (dependency : String) :
    Agree Resembles (g.acquire dependency) (h.acquire dependency) := by
  have asked := same.askBreaker dependency .acquire
  have replies : BreakerReply.ofRefusal (g.acquire dependency).1 =
      .ofRefusal (h.acquire dependency).1 := asked.answers
  have answers : (g.acquire dependency).1 = (h.acquire dependency).1 := by
    generalize (g.acquire dependency).1 = first at replies ⊢
    generalize (h.acquire dependency).1 = second at replies ⊢
    cases first <;> cases second <;> cases replies <;> rfl
  exact .of answers asked.after

theorem recordSuccess (same : g.Resembles h) (dependency : String) :
    (g.recordSuccess dependency).Resembles (h.recordSuccess dependency) :=
  (same.askBreaker dependency .recordSuccess).after

theorem recordFailure (same : g.Resembles h) (dependency : String) :
    (g.recordFailure dependency).Resembles (h.recordFailure dependency) :=
  (same.askBreaker dependency .recordFailure).after

theorem forceOpen (same : g.Resembles h) (dependency : String) :
    (g.forceOpen dependency).Resembles (h.forceOpen dependency) :=
  (same.askBreaker dependency .forceOpen).after

theorem breakerSnapshot (same : g.Resembles h) (dependency : String) :
    Agree Resembles (g.breakerSnapshot dependency)
      (h.breakerSnapshot dependency) := by
  have asked := same.askBreaker dependency .snapshot
  exact .of (BreakerReply.snapshot.inj asked.answers) asked.after

theorem breakerSnapshots (same : g.Resembles h) :
    Agree Resembles g.breakerSnapshots h.breakerSnapshots := by
  have snapshots := Registry.snapshots_of_prune_eq same.registries
  have asked := same.asksRegistry
    (fun now r => ((r.snapshots now).1, [], (r.snapshots now).2))
    (by rw [snapshots]; exact ⟨rfl, rfl, rfl⟩)
  rw [tell_nil, tell_nil] at asked
  exact asked

theorem resetBreaker (same : g.Resembles h) (dependency : String) :
    Agree Resembles (g.resetBreaker dependency) (h.resetBreaker dependency) :=
  same.asksRegistry (fun _ r => r.reset dependency)
    (Registry.reset_of_prune_eq same.registries dependency)

theorem resetBreakers (same : g.Resembles h) :
    g.resetBreakers.Resembles h.resetBreakers :=
  (same.asksRegistry (fun _ r => ((), r.resetAll))
    ⟨rfl, Registry.resetAll_of_prune_eq same.registries⟩).after

/-! Admissions -/

theorem charge (same : g.Resembles h) (lasting : 0 < g.ledger.budget.period)
    (tenant dependency : String) (cost : Float) :
    Agree Resembles (g.charge tenant dependency cost)
      (h.charge tenant dependency cost) := by
  have reserved := same.reserve lasting tenant cost
  unfold Gate.charge
  generalize g.reserve tenant cost = x at reserved ⊢
  generalize h.reserve tenant cost = y at reserved ⊢
  obtain ⟨answer, after⟩ := reserved
  cases answer with
  | error error =>
      cases error with
      | clockOverflow => exact .intro _ after
      | invalidCost cost => exact .intro _ after
      | store error => exact .intro _ (after.tell _)
  | ok reservation =>
      cases reservation with
      | unavailable error => exact .intro _ (after.tell _)
      | charged charge limit =>
          dsimp only
          split
          · exact .intro _ after
          · exact .intro _ (after.tell _)

theorem attempt (same : g.Resembles h) (call : Call) :
    Agree Resembles (g.attempt call) (h.attempt call) := by
  have asked := same.acquire call.dependency
  unfold Gate.attempt
  generalize g.acquire _ = x at asked ⊢
  generalize h.acquire _ = y at asked ⊢
  obtain ⟨answer, after⟩ := asked
  cases answer with
  | none => exact .intro _ after
  | some circuit => exact .intro _ (after.tell _)

theorem hear (same : g.Resembles h) (call : Call)
    (result : Except String String) :
    Agree Resembles (g.hear call result) (h.hear call result) := by
  cases result with
  | ok value => exact .intro _ (same.recordSuccess _)
  | error error => exact .intro _ ((same.recordFailure _).tell _)

theorem refuse (same : g.Resembles h) (refusal : Refusal) :
    Agree Resembles (g.refuse refusal) (h.refuse refusal) :=
  .intro _ (same.tell _)

theorem enter (same : g.Resembles h) (call : Call) :
    Agree Resembles (g.enter call) (h.enter call) := by
  have asked := same.attempt call
  unfold Gate.enter
  generalize g.attempt call = x at asked ⊢
  generalize h.attempt call = y at asked ⊢
  obtain ⟨answer, after⟩ := asked
  cases answer with
  | none => exact .intro _ after
  | some refusal => exact (after.refund _ _).refuse _

theorem start (same : g.Resembles h) (lasting : 0 < g.ledger.budget.period)
    (tenant dependency : String) (cost : Float) :
    Agree Resembles (g.start tenant dependency cost)
      (h.start tenant dependency cost) := by
  have charged := same.charge lasting tenant dependency cost
  unfold Gate.start
  generalize g.charge tenant dependency cost = x at charged ⊢
  generalize h.charge tenant dependency cost = y at charged ⊢
  obtain ⟨answer, after⟩ := charged
  cases answer with
  | clockOverflow => exact .intro _ after
  | refused refusal => exact after.refuse _
  | denied hold refusal =>
      dsimp only
      rw [after.ledgers.budget]
      split
      · exact (after.refund _ _).refuse _
      · exact after.refuse _
  | held hold => exact after.enter _

theorem finish (same : g.Resembles h) (call : Call)
    (result : Except String String) :
    Agree Resembles (g.finish call result) (h.finish call result) := by
  have heard := same.hear call result
  unfold Gate.finish
  generalize g.hear call result = x at heard ⊢
  generalize h.hear call result = y at heard ⊢
  obtain ⟨answer, after⟩ := heard
  cases answer with
  | ok value => exact .intro _ (after.tell _)
  | error refusal => exact .intro _ ((after.refund _ _).tell _)

theorem admission (same : g.Resembles h)
    (lasting : 0 < g.ledger.budget.period) (tenant dependency : String)
    (cost : Float) (result : Except String String) :
    Agree Resembles (g.admission tenant dependency cost result)
      (h.admission tenant dependency cost result) := by
  have started := same.start lasting tenant dependency cost
  unfold Gate.admission admissionWith
  generalize g.start tenant dependency cost = x at started ⊢
  generalize h.start tenant dependency cost = y at started ⊢
  obtain ⟨entry, after⟩ := started
  cases entry with
  | clockOverflow => exact .intro _ after
  | refused refusal => exact .intro _ after
  | running call =>
      have finished := after.finish call result
      have answers := congrArg (fun answer => some (Admitted.mk answer true))
        finished.answers
      exact .of answers finished.after

/-! Requests -/

theorem serveHealth (same : g.Resembles h) :
    Agree Resembles g.serveHealth h.serveHealth := by
  unfold Gate.serveHealth
  rw [same.ledgers.health]
  cases h.ledger.health with
  | ok => exact .intro _ same
  | error error => exact .intro _ (same.tell _)

theorem serveStatus (same : g.Resembles h) :
    Agree Resembles g.serveStatus h.serveStatus := by
  have snapshots := same.breakerSnapshots
  unfold Gate.serveStatus
  rw [same.ledgers.outage, same.now]
  generalize g.breakerSnapshots = x at snapshots ⊢
  generalize h.breakerSnapshots = y at snapshots ⊢
  obtain ⟨answer, after⟩ := snapshots
  exact .intro _ after

theorem serveBreakers (same : g.Resembles h) :
    Agree Resembles g.serveBreakers h.serveBreakers := by
  have snapshots := same.breakerSnapshots
  unfold Gate.serveBreakers
  generalize g.breakerSnapshots = x at snapshots ⊢
  generalize h.breakerSnapshots = y at snapshots ⊢
  obtain ⟨answer, after⟩ := snapshots
  exact .intro _ after

theorem snapshotJson (same : g.Resembles h) (dependency : String) :
    Agree Resembles
      (Response.ofJson 200 (g.breakerSnapshot dependency).1.json,
        (g.breakerSnapshot dependency).2)
      (Response.ofJson 200 (h.breakerSnapshot dependency).1.json,
        (h.breakerSnapshot dependency).2) := by
  have snapshot := same.breakerSnapshot dependency
  rw [snapshot.answers]
  exact .intro _ snapshot.after

theorem serveReset (same : g.Resembles h) (dependency : String) :
    Agree Resembles (g.serveReset dependency) (h.serveReset dependency) := by
  have reset := same.resetBreaker dependency
  unfold Gate.serveReset
  generalize g.resetBreaker dependency = x at reset ⊢
  generalize h.resetBreaker dependency = y at reset ⊢
  obtain ⟨found, after⟩ := reset
  cases found with
  | false => exact .intro _ after
  | true => exact (after.tell _).snapshotJson dependency

theorem serveOpen (same : g.Resembles h) (dependency : String) :
    Agree Resembles (g.serveOpen dependency) (h.serveOpen dependency) :=
  ((same.forceOpen dependency).tell _).snapshotJson dependency

theorem serveBudget (same : g.Resembles h) (tenant : String) :
    Agree Resembles (g.serveBudget tenant) (h.serveBudget tenant) := by
  have read := same.spendSnapshot tenant
  unfold Gate.serveBudget
  generalize g.spendSnapshot tenant = x at read ⊢
  generalize h.spendSnapshot tenant = y at read ⊢
  obtain ⟨answer, after⟩ := read
  cases answer with
  | ok snapshot => exact .intro _ after
  | error error => exact .intro _ after

theorem withName (same : g.Resembles h) (label encoded : String)
    {serve : Gate → String → Response × Gate}
    (each : ∀ name, Agree Resembles (serve g name) (serve h name)) :
    Agree Resembles (g.withName label encoded serve)
      (h.withName label encoded serve) := by
  unfold Gate.withName
  split
  · exact each _
  · exact .intro _ same

theorem serveRoute (same : g.Resembles h) (route : Route) :
    Agree Resembles (g.serveRoute route) (h.serveRoute route) := by
  cases route with
  | health => exact same.serveHealth
  | status => exact same.serveStatus
  | breakers => exact same.serveBreakers
  | resetBreaker encoded => exact same.withName _ _ same.serveReset
  | openBreaker encoded => exact same.withName _ _ same.serveOpen
  | budget encoded => exact same.withName _ _ same.serveBudget

theorem serveMethod (same : g.Resembles h) (route : Route)
    (method : String) :
    Agree Resembles (g.serveMethod route method)
      (h.serveMethod route method) := by
  have served : Agree Resembles
      (if route.accepts method then g.serveRoute route
        else ({ status := 405 }, g))
      (if route.accepts method then h.serveRoute route
        else ({ status := 405 }, h)) := by
    split
    · exact same.serveRoute route
    · exact .intro _ same
  unfold Gate.serveMethod
  generalize (if route.accepts method then g.serveRoute route
    else ({ status := 405 }, g)) = x at served ⊢
  generalize (if route.accepts method then h.serveRoute route
    else ({ status := 405 }, h)) = y at served ⊢
  obtain ⟨response, after⟩ := served
  dsimp only
  split
  · exact .intro _ after
  · exact .intro _ after

theorem serveUnauthorized (same : g.Resembles h) (method : String) :
    Agree Resembles (g.serveUnauthorized method)
      (h.serveUnauthorized method) := by
  unfold Gate.serveUnauthorized
  split
  · exact .intro _ same
  · exact .intro _ same

theorem serve (same : g.Resembles h) (request : Request) :
    Agree Resembles (g.serve request) (h.serve request) := by
  have authorizes : g.authorizes request.authorization =
      h.authorizes request.authorization := by
    unfold Gate.authorizes
    rw [same.admin]
  unfold Gate.serve serveKnown serveUnknown
  rw [authorizes]
  split
  · exact .intro _ same
  · split
    · split
      · exact same.serveMethod _ _
      · exact same.serveUnauthorized _
    · split
      · exact .intro _ same
      · exact .intro _ same

/-! Models -/

theorem providerFor (same : g.Resembles h) (model : String) :
    g.providerFor model = h.providerFor model := by
  rw [Gate.providerFor, Gate.providerFor, same.providers]

theorem estimate (same : g.Resembles h) (model : String)
    (inputTokens maxOutputTokens : Nat) :
    g.estimate model inputTokens maxOutputTokens =
      h.estimate model inputTokens maxOutputTokens := by
  rw [Gate.estimate, Gate.estimate, same.prices]

end Resembles

end Gate

end Tollgate
