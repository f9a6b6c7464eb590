import Tollgate.Proofs.Breaker.Story
import Tollgate.Proofs.Gate.Moves
import Tollgate.Proofs.Traffic.Ticket

/-!
What happens at a gate, and what it tells of that. Facts are read off answers:
attempts that are refused, charges that the store lets a guard take back,
admissions that end. Each operation tells of its facts one by one, and otherwise
writes to its log at most.
-/

namespace Tollgate

inductive Fact where
  /-- The breaker of a dependency has refused an attempt. -/
  | refused (dependency : String)
  /-- The store has answered the guard of a charge that takes it back. -/
  | refunded
  /-- An admission has come to its end. -/
  | completed (outcome : AdmissionOutcome)
  /-- A period was to begin whose end the clock cannot hold. -/
  | overflowed
deriving DecidableEq

namespace Fact

def ofAttempt (dependency : String) (refused : Bool) : List Fact :=
  if refused then [.refused dependency] else []

def ofReserve : Except LedgerError Reservation → List Fact
  | .error .clockOverflow => [.overflowed]
  | _ => []

def ofCharge : Charging → List Fact
  | .clockOverflow => [.overflowed]
  | _ => []

end Fact

def RegistryOp.facts (op : RegistryOp) (reply : RegistryReply) : List Fact :=
  match op.refused? reply with
  | some dependency => [.refused dependency]
  | none => []

namespace Gate

/-- The ledger passes a refund on to the store if it is of an amount, and the
store answers while it is in reach. -/
def refundFacts (g : Gate) (cost : Float) : List Fact :=
  if isAmount cost && g.ledger.outage.isNone then [.refunded] else []

def refusalFacts (g : Gate) (dependency : String) (cost : Float)
    (refusal : Refusal) : List Fact :=
  Fact.ofAttempt dependency (refusal.outcome = .breakerOpen) ++
    (if refusal.outcome.isTakenBack g.ledger.budget.refundDenied then
      g.refundFacts cost else []) ++
    [.completed refusal.outcome]

def resultFacts (g : Gate) (dependency : String) (cost : Float) :
    Except Refusal String → List Fact
  | .ok _ => [.completed .admitted]
  | .error refusal => g.refusalFacts dependency cost refusal

def entryFacts (g : Gate) (dependency : String) (cost : Float) :
    Entry → List Fact
  | .running _ => []
  | .refused refusal => g.refusalFacts dependency cost refusal
  | .clockOverflow => [.overflowed]

def admissionFacts (g : Gate) (dependency : String) (cost : Float) :
    Option Admitted → List Fact
  | none => [.overflowed]
  | some admitted => g.resultFacts dependency cost admitted.result

/-- What a gate does of its own accord, with the facts meanwhile. -/
inductive Speaks (g : Gate) : List Fact → Gate → Prop where
  | refl : Speaks g [] g
  | logs {facts : List Fact} {h : Gate} (speaks : Speaks g facts h)
      (event : LogEvent) (plain : (Signal.log event).breaker? = none) :
      Speaks g facts (h.tell [.log event])
  | reads {facts : List Fact} {h : Gate} (speaks : Speaks g facts h)
      (read : Nat) :
      Speaks g facts { h with telemetry := { h.telemetry with read } }
  | store {facts : List Fact} {h : Gate} (speaks : Speaks g facts h)
      (op : SpendOp) (fair : op.IsFair) :
      Speaks g facts (h.withStore (h.ledger.store.perform h.now op).2)
  | registry {facts : List Fact} {h : Gate} (speaks : Speaks g facts h)
      (op : RegistryOp) :
      Speaks g (facts ++ op.facts (h.registry.perform h.now op).1)
        ({ h with registry := (h.registry.perform h.now op).2.2 }.tell
          (h.registry.perform h.now op).2.1)
  | overflows {facts : List Fact} {h : Gate} (speaks : Speaks g facts h)
      (late : Clock.after? h.now h.ledger.budget.period = none) :
      Speaks g (facts ++ [.overflowed]) h
  | refunds {facts : List Fact} {h : Gate} (speaks : Speaks g facts h)
      (reason : String) :
      Speaks g (facts ++ [.refunded]) (h.tell [.count (.rollbacks reason)])
  | completes {facts : List Fact} {h : Gate} (speaks : Speaks g facts h)
      (outcome : AdmissionOutcome) :
      Speaks g (facts ++ [.completed outcome]) (h.conclude outcome)

/-- Something befalls a gate. It tells of new limits at most, and its breakers
stay as they are. -/
structure Undergoes (g h : Gate) : Prop where
  passed : g.now ≤ h.now
  registry : h.registry = g.registry
  signals : h.telemetry.signals = g.telemetry.signals ∨
    ∃ limit overrides, h.telemetry.signals =
      g.telemetry.signals ++ [.log (.limitsUpdated limit overrides)]

variable {g h k : Gate} {facts more : List Fact}

theorem Moves.outage (moves : g.Moves h) :
    h.ledger.outage = g.ledger.outage := by
  induction moves with
  | refl => rfl
  | records moves telemetry ih => exact ih
  | store moves op fair ih => exact ih
  | registry moves op ih => exact ih

theorem Moves.refundFacts (moves : g.Moves h) :
    h.refundFacts = g.refundFacts := by
  unfold Gate.refundFacts
  rw [moves.outage]

theorem Moves.refusalFacts (moves : g.Moves h) :
    h.refusalFacts = g.refusalFacts := by
  unfold Gate.refusalFacts
  rw [moves.refundFacts, moves.rules.budget]

theorem Moves.resultFacts (moves : g.Moves h) :
    h.resultFacts = g.resultFacts := by
  funext dependency cost result
  cases result with
  | ok value => rfl
  | error refusal =>
      unfold Gate.resultFacts
      rw [moves.refusalFacts]

theorem call_of_enter {call entered : Call}
    (running : g.enter call = (.running entered, h)) : entered = call := by
  unfold enter at running
  split at running
  · cases running
    rfl
  · cases running

theorem call_of_start {tenant dependency : String} {cost : Float} {call : Call}
    (running : g.start tenant dependency cost = (.running call, h)) :
    ∃ period, call = ⟨⟨tenant, cost, period⟩, dependency⟩ := by
  have given := g.charge_gives tenant dependency cost
  unfold start at running
  generalize g.charge tenant dependency cost = result at running given
  cases given with
  | invalid message rejected => cases running
  | unavailable error accepted outage => cases running
  | overflow store accepted reachable keeps => cases running
  | charged answer store accepted reachable reserved =>
      by_cases fits : answer.allowed
      · simp only [fits, if_true] at running
        exact ⟨answer.period, call_of_enter running⟩
      · simp only [fits, Bool.false_eq_true, if_false] at running
        split at running
        · cases running
        · cases running

namespace Speaks

theorem moves (speaks : g.Speaks facts h) : g.Moves h := by
  induction speaks with
  | refl => exact .refl
  | logs speaks event plain ih => exact ih.told _
  | reads speaks read ih => exact ih.records _
  | store speaks op fair ih => exact ih.store op fair
  | registry speaks op ih => exact (ih.registry op).told _
  | overflows speaks late ih => exact ih
  | refunds speaks reason ih => exact ih.told _
  | completes speaks outcome ih => exact ih.told _

theorem trans (first : g.Speaks facts h) (second : h.Speaks more k) :
    g.Speaks (facts ++ more) k := by
  induction second with
  | refl => simpa using first
  | logs speaks event plain ih => exact ih.logs event plain
  | reads speaks read ih => exact ih.reads read
  | store speaks op fair ih => exact ih.store op fair
  | registry speaks op ih =>
      rw [← List.append_assoc]
      exact ih.registry op
  | overflows speaks late ih =>
      rw [← List.append_assoc]
      exact ih.overflows late
  | refunds speaks reason ih =>
      rw [← List.append_assoc]
      exact ih.refunds reason
  | completes speaks outcome ih =>
      rw [← List.append_assoc]
      exact ih.completes outcome

theorem followed (first : g.Speaks [] h) (second : h.Speaks facts k) :
    g.Speaks facts k := first.trans second

theorem follow (first : g.Speaks facts h) (second : h.Speaks [] k) :
    g.Speaks facts k := by
  simpa using first.trans second

/-! The ledger -/

theorem log (g : Gate) (event : LogEvent)
    (plain : (Signal.log event).breaker? = none) :
    g.Speaks [] (g.tell [.log event]) := refl.logs event plain

theorem reserve (g : Gate) (tenant : String) (cost : Float) :
    g.Speaks (Fact.ofReserve (g.reserve tenant cost).1)
      (g.reserve tenant cost).2 := by
  let reserved := g.ledger.reserve g.now tenant cost
  change g.Speaks (Fact.ofReserve reserved.1)
    ({ g with ledger := reserved.2.2 }.tell reserved.2.1)
  cases valid : isAmount cost with
  | false =>
      rw [show reserved = _ from Ledger.reserve_of_invalid valid]
      simp only [tell_nil]
      exact refl
  | true =>
      rcases g.ledger.outage.eq_none_or_eq_some with reachable | ⟨error, outage⟩
      · let op : SpendOp := .reserve (g.ledger.keyFor tenant)
          (Micros.ofAmount cost) (Micros.ofAmount (g.ledger.limitFor tenant))
          g.ledger.budget.period
        have fair : op.IsFair := Micros.ofAmount_nonneg valid
        have asked := refl.store (g := g) op fair
        rw [show reserved = _ from Ledger.reserve_of_reachable valid reachable]
        simp only [tell_nil]
        cases answered : (g.ledger.store.reserve g.now (g.ledger.keyFor tenant)
            (Micros.ofAmount cost) (Micros.ofAmount (g.ledger.limitFor tenant))
            g.ledger.budget.period).1 with
        | some charge => exact asked
        | none => exact asked.overflows (SpendStore.late_of_reserve answered)
      · rw [show reserved = _ from Ledger.reserve_of_outage valid outage]
        exact log g _ rfl

theorem release (g : Gate) (tenant : String) (cost : Float)
    (period : Option Nat) : g.Speaks [] (g.release tenant cost period).2 := by
  let released := g.ledger.release g.now tenant cost period
  change g.Speaks [] { g with ledger := released.2 }
  rcases g.ledger.release_ledger g.now tenant cost period with
    same | ⟨amount, asked⟩
  · rw [same]
    exact refl
  · let op : SpendOp := .release (g.ledger.keyFor tenant)
      (Micros.ofAmount cost) period
    have fair : op.IsFair := Micros.ofAmount_nonneg amount
    rw [asked]
    exact refl.store op fair

theorem current (g : Gate) (tenant : String) :
    g.Speaks [] { g with ledger := (g.ledger.current g.now tenant).2 } := by
  rcases g.ledger.current_ledger g.now tenant with same | asked
  · rw [same]
    exact refl
  · let op : SpendOp := .current (g.ledger.keyFor tenant)
    have fair : op.IsFair := trivial
    rw [asked]
    exact refl.store op fair

theorem budgetStatus (g : Gate) (tenant : String) :
    g.Speaks [] (g.budgetStatus tenant).2 := by
  have read := current g tenant
  change g.Speaks [] ({ g with
    ledger := (g.ledger.status g.now tenant).2.2 }.tell
      (g.ledger.status g.now tenant).2.1)
  unfold Ledger.status
  split <;> rename_i answered <;> rw [answered] at read
  · simp only [tell_nil]
    exact read
  · exact read.logs _ rfl

theorem spendSnapshot (g : Gate) (tenant : String) :
    g.Speaks [] (g.spendSnapshot tenant).2 := by
  change g.Speaks [] { g with ledger := (g.ledger.snapshot g.now tenant).2 }
  rw [Ledger.snapshot_ledger]
  exact current g tenant

theorem refund (g : Gate) (hold : Hold) (reason : String) :
    g.Speaks (g.refundFacts hold.cost) (g.refund hold reason) := by
  have released := release g hold.tenant hold.cost (some hold.period)
  unfold Gate.refundFacts
  cases valid : isAmount hold.cost with
  | false =>
      have refused : g.release hold.tenant hold.cost (some hold.period) =
          (.error (.invalidCost hold.cost), g) := by
        unfold Gate.release
        rw [Ledger.release_of_invalid valid]
      unfold Gate.refund
      rw [refused]
      exact refl
  | true =>
      rcases g.ledger.outage.eq_none_or_eq_some with reachable | ⟨error, outage⟩
      · rw [reachable, refund_of_reachable hold reason valid reachable]
        let op : SpendOp := .release (g.ledger.keyFor hold.tenant)
          (Micros.ofAmount hold.cost) (some hold.period)
        have fair : op.IsFair := Micros.ofAmount_nonneg valid
        exact (refl.store op fair).refunds reason
      · rw [outage, refund_of_outage hold reason valid outage]
        exact log g _ rfl

/-! Breakers -/

theorem askBreaker (g : Gate) (dependency : String) (op : BreakerOp) :
    g.Speaks
      (Fact.ofAttempt dependency (g.askBreaker dependency op).1.isRefusal)
      (g.askBreaker dependency op).2 := by
  have asked := refl.registry (g := g) (.ask dependency op)
  have facts (reply : BreakerReply) :
      RegistryOp.facts (.ask dependency op) (.reply reply) =
        Fact.ofAttempt dependency reply.isRefusal := by
    cases refused : reply.isRefusal <;>
      simp [RegistryOp.facts, RegistryOp.refused?, Fact.ofAttempt, refused]
  rw [askBreaker_eq, ← facts]
  exact asked

theorem breaker (g : Gate) (dependency : String) :
    g.Speaks [] (g.breaker dependency).2 :=
  refl.registry (.getOrCreate dependency)

theorem acquire (g : Gate) (dependency : String) :
    g.Speaks (Fact.ofAttempt dependency (g.acquire dependency).1.isSome)
      (g.acquire dependency).2 := by
  have asked : g.Speaks
      (Fact.ofAttempt dependency
        (BreakerReply.ofRefusal (g.acquire dependency).1).isRefusal)
      (g.acquire dependency).2 := askBreaker g dependency .acquire
  cases answered : (g.acquire dependency).1 with
  | none => rw [answered] at asked; exact asked
  | some circuit => rw [answered] at asked; exact asked

theorem recordSuccess (g : Gate) (dependency : String) :
    g.Speaks [] (g.recordSuccess dependency) :=
  askBreaker g dependency .recordSuccess

theorem recordFailure (g : Gate) (dependency : String) :
    g.Speaks [] (g.recordFailure dependency) :=
  askBreaker g dependency .recordFailure

theorem forceOpen (g : Gate) (dependency : String) :
    g.Speaks [] (g.forceOpen dependency) := askBreaker g dependency .forceOpen

theorem breakerSnapshot (g : Gate) (dependency : String) :
    g.Speaks [] (g.breakerSnapshot dependency).2 :=
  askBreaker g dependency .snapshot

theorem breakerSnapshots (g : Gate) : g.Speaks [] g.breakerSnapshots.2 := by
  have asked := refl.registry (g := g) .snapshots
  rw [show (g.registry.perform g.now .snapshots).2.1 = [] from rfl,
    tell_nil] at asked
  exact asked

theorem resetBreaker (g : Gate) (dependency : String) :
    g.Speaks [] (g.resetBreaker dependency).2 :=
  refl.registry (.reset dependency)

theorem resetBreakers (g : Gate) : g.Speaks [] g.resetBreakers :=
  refl.registry .resetAll

/-! Requests -/

theorem serve (g : Gate) (request : Request) :
    g.Speaks [] (g.serve request).2 := by
  have handled := Handles.serve g request
  generalize (g.serve request).2 = after at handled
  cases handled with
  | same => exact refl
  | unhealthy error => exact log g _ rfl
  | reports => exact breakerSnapshots g
  | snapshot tenant => exact spendSnapshot g tenant
  | resets dependency post =>
      have reset := resetBreaker g dependency
      unfold serveReset
      split <;> rename_i answered <;> rw [answered] at reset
      · exact reset
      · exact (reset.logs _ rfl).followed (breakerSnapshot _ dependency)
  | opens dependency post =>
      exact ((forceOpen g dependency).logs _ rfl).followed
        (breakerSnapshot _ dependency)

/-! Admissions -/

theorem charge (g : Gate) (tenant dependency : String) (cost : Float) :
    g.Speaks (Fact.ofCharge (g.charge tenant dependency cost).1)
      (g.charge tenant dependency cost).2 := by
  have reserved := reserve g tenant cost
  unfold Gate.charge
  split <;> rename_i answered <;> rw [answered] at reserved
  · exact reserved
  · exact reserved
  · exact reserved.logs _ rfl
  · exact reserved.logs _ rfl
  · dsimp only
    split
    · exact reserved
    · exact reserved.logs _ rfl

theorem attempt (g : Gate) (call : Call) :
    g.Speaks (Fact.ofAttempt call.dependency (g.attempt call).1.isSome)
      (g.attempt call).2 := by
  have asked := acquire g call.dependency
  unfold Gate.attempt
  split <;> rename_i attempted <;> rw [attempted] at asked
  · exact asked
  · exact asked.logs _ rfl

theorem hear (g : Gate) (call : Call) (result : Except String String) :
    g.Speaks [] (g.hear call result).2 := by
  cases result with
  | ok value => exact recordSuccess g _
  | error message => exact (recordFailure g _).logs _ rfl

theorem conclude (g : Gate) (outcome : AdmissionOutcome) :
    g.Speaks [.completed outcome] (g.conclude outcome) := refl.completes outcome

theorem rollBack (dependency : String) (hold : Hold) (refusal : Refusal)
    (back : refusal.outcome.isTakenBack g.ledger.budget.refundDenied)
    (speaks : g.Speaks
      (Fact.ofAttempt dependency (refusal.outcome = .breakerOpen)) h) :
    g.Speaks (g.refusalFacts dependency hold.cost refusal)
      ((h.rollBack hold refusal).conclude refusal.outcome) := by
  have refunded := refund h hold refusal.outcome.name
  rw [speaks.moves.refundFacts] at refunded
  unfold Gate.refusalFacts
  rw [if_pos back]
  exact (speaks.trans refunded).completes refusal.outcome

theorem keep (dependency : String) (cost : Float) (refusal : Refusal)
    (stays : refusal.outcome.isTakenBack g.ledger.budget.refundDenied = false)
    (unasked : refusal.outcome ≠ .breakerOpen) (speaks : g.Speaks [] h) :
    g.Speaks (g.refusalFacts dependency cost refusal)
      (h.conclude refusal.outcome) := by
  unfold Gate.refusalFacts
  rw [stays, decide_eq_false unasked]
  exact speaks.completes refusal.outcome

theorem enter (g : Gate) (call : Call) :
    g.Speaks (g.entryFacts call.dependency call.hold.cost (g.enter call).1)
      (g.enter call).2 := by
  have asked := attempt g call
  unfold Gate.enter
  split <;> rename_i entered
  · rw [entered] at asked
    exact asked
  · have outcome := attempt_outcome entered
    rw [entered] at asked
    refine rollBack _ _ _ (by rw [outcome]; rfl) ?_
    rw [outcome]
    exact asked

theorem start (g : Gate) (tenant dependency : String) (cost : Float) :
    g.Speaks
      (g.entryFacts dependency cost (g.start tenant dependency cost).1)
      (g.start tenant dependency cost).2 := by
  have charged := charge g tenant dependency cost
  have given := g.charge_gives tenant dependency cost
  unfold Gate.start
  generalize g.charge tenant dependency cost = result at charged given
  cases given with
  | invalid message rejected =>
      exact keep dependency cost (.invalidRequest message) rfl nofun charged
  | unavailable error accepted outage =>
      exact keep dependency cost (.ledgerUnavailable error.message) rfl nofun
        charged
  | overflow store accepted reachable keeps => exact charged
  | charged answer store accepted reachable reserved =>
      let hold : Hold := ⟨tenant, cost, answer.period⟩
      by_cases fits : answer.allowed
      · simp only [fits, if_true] at charged ⊢
        have entered := enter (g.withStore store) ⟨hold, dependency⟩
        exact charged.followed entered
      · let refusal : Refusal := .budgetExceeded tenant
          (Micros.toAmount answer.total) (g.ledger.limitFor tenant)
        simp only [fits, Bool.false_eq_true, if_false] at charged ⊢
        split
        · rename_i back
          exact rollBack dependency hold refusal back charged
        · rename_i stays
          exact keep dependency cost refusal (Bool.eq_false_iff.mpr stays) nofun
            charged

theorem finish (g : Gate) (call : Call) (result : Except String String) :
    g.Speaks
      (g.resultFacts call.dependency call.hold.cost (g.finish call result).1)
      (g.finish call result).2 := by
  have heard := hear g call result
  unfold Gate.finish
  split <;> rename_i ended
  · rw [ended] at heard
    exact heard.completes .admitted
  · have outcome := hear_outcome ended
    rw [ended] at heard
    refine rollBack _ _ _ (by rw [outcome]; rfl) ?_
    rw [outcome]
    exact heard

theorem admission (g : Gate) (tenant dependency : String) (cost : Float)
    (result : Except String String) :
    g.Speaks
      (g.admissionFacts dependency cost
        (g.admission tenant dependency cost result).1)
      (g.admission tenant dependency cost result).2 := by
  have entered := start g tenant dependency cost
  unfold Gate.admission admissionWith
  split <;> rename_i started <;> rw [started] at entered
  · exact entered
  · exact entered
  · rename_i call h
    have finished := finish h call result
    obtain ⟨period, rfl⟩ := call_of_start started
    rw [entered.moves.resultFacts] at finished
    exact entered.followed finished

end Speaks

end Gate

end Tollgate
