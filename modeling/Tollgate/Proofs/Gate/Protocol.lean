import Tollgate.Proofs.Breaker.Operations
import Tollgate.Proofs.Gate.Charge

/-!
The order of an admission. Its stages are asked one after another, the first
that objects answers for the whole, and what lies behind it is left alone. Only
what passes them all runs.
-/

namespace Tollgate

namespace Gate

variable {g : Gate} {tenant dependency : String} {cost : Float}

/-- Whether the breaker of the dependency would grant an attempt now. One that
is yet to be made would. -/
def grants (g : Gate) (dependency : String) : Bool :=
  (g.registry.get? dependency).all (·.grants g.now)

/-- Whether the tenant stays within its limit with a charge. -/
def fits (g : Gate) (tenant : String) (cost : Float) : Bool :=
  Micros.add (g.spent tenant) (Micros.ofAmount cost) ≤
    Micros.ofAmount (g.ledger.limitFor tenant)

/-- The first stage that stops an admission before its operation runs. -/
def obstacle? (g : Gate) (tenant dependency : String) (cost : Float) :
    Option AdmissionOutcome :=
  if !isAmount cost then some .invalidRequest
  else if g.ledger.outage.isSome then some .ledgerUnavailable
  else if !g.fits tenant cost then some .budgetExceeded
  else if !g.grants dependency then some .breakerOpen
  else none

theorem obstacle?_eq_none_iff :
    g.obstacle? tenant dependency cost = none ↔
      isAmount cost ∧ g.ledger.outage = none ∧ g.fits tenant cost ∧
        g.grants dependency := by
  unfold obstacle?
  cases accepted : isAmount cost with
  | false => simp
  | true =>
      cases outage : g.ledger.outage with
      | some error => simp
      | none =>
          cases within : g.fits tenant cost with
          | false => simp
          | true => simp

theorem obstacle?_of_invalid (rejected : isAmount cost = false) :
    g.obstacle? tenant dependency cost = some .invalidRequest := by
  simp [obstacle?, rejected]

theorem obstacle?_of_outage (accepted : isAmount cost) {error : StoreError}
    (outage : g.ledger.outage = some error) :
    g.obstacle? tenant dependency cost = some .ledgerUnavailable := by
  simp [obstacle?, accepted, outage]

theorem obstacle?_of_unfit (accepted : isAmount cost)
    (reachable : g.ledger.outage = none) (past : g.fits tenant cost = false) :
    g.obstacle? tenant dependency cost = some .budgetExceeded := by
  simp [obstacle?, accepted, reachable, past]

theorem obstacle?_of_fit (accepted : isAmount cost)
    (reachable : g.ledger.outage = none) (within : g.fits tenant cost) :
    g.obstacle? tenant dependency cost =
      if g.grants dependency then none else some .breakerOpen := by
  cases granted : g.grants dependency with
  | true => simp [obstacle?, accepted, reachable, within, granted]
  | false => simp [obstacle?, accepted, reachable, within, granted]

/-! What an admission leaves alone -/

@[simp]
theorem refund_registry (g : Gate) (hold : Hold) (reason : String) :
    (g.refund hold reason).registry = g.registry := by
  have same : (g.release hold.tenant hold.cost (some hold.period)).2.registry =
      g.registry := rfl
  unfold refund
  split
  · rename_i released
    rw [released] at same
    exact same
  · rename_i released
    rw [released] at same
    exact same
  · rename_i released
    rw [released] at same
    exact same

theorem acquire_of_wait {b : Breaker} {rest : Nat}
    (made : g.registry.get? dependency = some b)
    (wait : b.retryAfter? g.now = some rest) :
    ∃ after, g.acquire dependency = (some ⟨b.dependency, rest⟩, after) ∧
      after.registry = g.registry.put dependency (b.prune g.now) := by
  unfold acquire breaker Registry.getOrCreate
  simp only [made, tell_nil, Breaker.acquire_of_refused wait]
  exact ⟨_, rfl, rfl⟩

theorem wait_of_refused (refused : g.grants dependency = false) :
    ∃ b rest, g.registry.get? dependency = some b ∧
      b.retryAfter? g.now = some rest := by
  unfold grants at refused
  cases found : g.registry.get? dependency with
  | none => simp [found] at refused
  | some b =>
      simp only [found, Option.all_some] at refused
      have wait : b.retryAfter? g.now ≠ none := by
        simp [Breaker.retryAfter?_eq_none_iff, refused]
      obtain ⟨rest, early⟩ := Option.ne_none_iff_exists'.mp wait
      exact ⟨b, rest, rfl, early⟩

theorem acquire_of_refused (refused : g.grants dependency = false) :
    ∃ b circuit after, g.registry.get? dependency = some b ∧
      g.acquire dependency = (some circuit, after) ∧
        after.registry = g.registry.put dependency (b.prune g.now) := by
  obtain ⟨b, rest, made, wait⟩ := wait_of_refused refused
  obtain ⟨after, asked, pruned⟩ := acquire_of_wait made wait
  exact ⟨b, _, after, made, asked, pruned⟩

theorem acquire_of_granted (granted : g.grants dependency) :
    ∃ after, g.acquire dependency = (none, after) := by
  unfold grants at granted
  cases found : g.registry.get? dependency with
  | none =>
      have fresh : ({ dependency, config := g.registry.configFor dependency } :
          Breaker).retryAfter? g.now = none := rfl
      unfold acquire breaker Registry.getOrCreate
      simp only [found]
      rw [tell_now, Breaker.acquire_of_granted fresh]
      exact ⟨_, rfl⟩
  | some b =>
      simp only [found, Option.all_some] at granted
      have ready := Breaker.retryAfter?_eq_none_iff.mpr granted
      unfold acquire breaker Registry.getOrCreate
      simp only [found, tell_nil, Breaker.acquire_of_granted ready]
      exact ⟨_, rfl⟩

theorem enter_of_granted {call : Call} (granted : g.grants call.dependency) :
    ∃ started, g.enter call = (.running call, started) := by
  obtain ⟨after, asked⟩ := acquire_of_granted granted
  unfold enter attempt
  rw [asked]
  exact ⟨after, rfl⟩

theorem enter_of_refused {call : Call}
    (refused : g.grants call.dependency = false) :
    ∃ refusal after, g.enter call = (.refused refusal, after) ∧
      refusal.outcome = .breakerOpen ∧
      ∃ b, g.registry.get? call.dependency = some b ∧
        after.registry = g.registry.put call.dependency (b.prune g.now) := by
  obtain ⟨b, circuit, after, found, asked, pruned⟩ := acquire_of_refused refused
  unfold enter attempt
  rw [asked]
  refine ⟨.breakerOpen circuit, _, rfl, rfl, b, found, ?_⟩
  exact (refund_registry _ _ _).trans pruned

theorem charge_ne_clockOverflow
    (answered : (g.reserve tenant cost).1 ≠ .error .clockOverflow)
    (dependency : String) :
    (g.charge tenant dependency cost).1 ≠ .clockOverflow := by
  unfold charge
  split
  · rename_i reserved
    rw [reserved] at answered
    exact absurd rfl answered
  · exact nofun
  · exact nofun
  · exact nofun
  · split
    · exact nofun
    · exact nofun

/-! From the charge to the start of the operation -/

/-- What an admission that a stage has stopped leaves as it was. A refused
attempt drops old failures from the breaker's history at most. -/
structure StopsAt (g : Gate) (stage : AdmissionOutcome) (dependency : String)
    (after : Gate) : Prop where
  ledger : stage = .invalidRequest ∨ stage = .ledgerUnavailable →
    after.ledger = g.ledger
  registry : stage ≠ .breakerOpen → after.registry = g.registry
  breaker : stage = .breakerOpen → ∃ b,
    g.registry.get? dependency = some b ∧
      after.registry = g.registry.put dependency (b.prune g.now)

theorem allowed_eq_fits {answer : Charge} {store : SpendStore}
    (charged : g.ledger.store.Charged g.now (g.ledger.keyFor tenant)
      (Micros.ofAmount cost) (Micros.ofAmount (g.ledger.limitFor tenant))
      answer store) : answer.allowed = g.fits tenant cost := by
  rw [charged.allowed, charged.total]
  rfl

theorem start_of_obstacle
    (answered : (g.reserve tenant cost).1 ≠ .error .clockOverflow)
    {stage : AdmissionOutcome}
    (obstacle : g.obstacle? tenant dependency cost = some stage) :
    ∃ refusal after,
      g.start tenant dependency cost = (.refused refusal, after) ∧
        refusal.outcome = stage ∧ g.StopsAt stage dependency after := by
  have given := g.charge_gives tenant dependency cost
  have runs := charge_ne_clockOverflow answered dependency
  unfold start
  generalize g.charge tenant dependency cost = result at given runs
  cases given with
  | invalid message rejected =>
      rw [obstacle?_of_invalid rejected] at obstacle
      cases obstacle
      exact ⟨_, _, rfl, rfl, fun _ => rfl, fun _ => rfl, nofun⟩
  | unavailable error accepted outage =>
      rw [obstacle?_of_outage accepted outage] at obstacle
      cases obstacle
      exact ⟨_, _, rfl, rfl, fun _ => rfl, fun _ => rfl, nofun⟩
  | overflow store accepted reachable keeps => exact absurd rfl runs
  | charged answer store accepted reachable charged =>
      have within := allowed_eq_fits charged
      cases fits : answer.allowed with
      | false =>
          rw [fits] at within
          rw [obstacle?_of_unfit accepted reachable within.symm] at obstacle
          cases obstacle
          simp only [Bool.false_eq_true, if_false]
          split
          · refine ⟨_, _, rfl, rfl, nofun, ?_, nofun⟩
            intro denied
            exact refund_registry _ _ _
          · exact ⟨_, _, rfl, rfl, nofun, fun _ => rfl, nofun⟩
      | true =>
          rw [fits] at within
          rw [obstacle?_of_fit accepted reachable within.symm] at obstacle
          cases granted : g.grants dependency with
          | true =>
              rw [granted] at obstacle
              cases obstacle
          | false =>
              rw [granted] at obstacle
              cases obstacle
              let call : Call := ⟨⟨tenant, cost, answer.period⟩, dependency⟩
              -- A charge has nothing to do with breakers.
              have refused :
                  (g.withStore store).grants call.dependency = false := granted
              obtain ⟨refusal, after, entered, kind, pruned⟩ :=
                enter_of_refused refused
              exact ⟨refusal, after, entered, kind, nofun, nofun,
                fun _ => pruned⟩

/-- Without an obstacle the operation runs, under the charge just made. -/
theorem start_of_none
    (answered : (g.reserve tenant cost).1 ≠ .error .clockOverflow)
    (free : g.obstacle? tenant dependency cost = none) :
    ∃ period started, g.start tenant dependency cost =
      (.running ⟨⟨tenant, cost, period⟩, dependency⟩, started) := by
  obtain ⟨accepted, reachable, fits, granted⟩ := obstacle?_eq_none_iff.mp free
  have given := g.charge_gives tenant dependency cost
  have runs := charge_ne_clockOverflow answered dependency
  unfold start
  generalize g.charge tenant dependency cost = result at given runs
  cases given with
  | invalid message rejected =>
      rw [rejected] at accepted
      cases accepted
  | unavailable error accepted outage =>
      rw [reachable] at outage
      cases outage
  | overflow store accepted reachable keeps => exact absurd rfl runs
  | charged answer store accepted reachable charged =>
      have allowed : answer.allowed = true := by
        rw [allowed_eq_fits charged, fits]
      let call : Call := ⟨⟨tenant, cost, answer.period⟩, dependency⟩
      have granted : (g.withStore store).grants call.dependency := granted
      obtain ⟨started, entered⟩ := enter_of_granted granted
      simp only [allowed, if_true]
      exact ⟨answer.period, started, entered⟩

/-! Once the operation has started -/

@[simp]
theorem finish_ok (g : Gate) (call : Call) (value : String) :
    (g.finish call (.ok value)).1 = .ok value := rfl

@[simp]
theorem finish_error (g : Gate) (call : Call) (error : String) :
    (g.finish call (.error error)).1 = .error (.operationFailed error) := rfl

theorem cancel_live? (call : Call) (accepted : isAmount call.hold.cost)
    (reachable : g.ledger.outage = none) {e : SpendEntry}
    (live : g.live? call.hold.tenant = some e)
    (current : e.period = call.hold.period) :
    let total := max 0 (Micros.sub e.total (Micros.ofAmount call.hold.cost))
    (g.cancel call).live? call.hold.tenant = some { e with total } := by
  intro total
  have ends := (SpendStore.live?_eq_some.mp live).2
  have same : (some call.hold.period).all (· == e.period) = true := by
    simp [current]
  unfold cancel
  rw [refund_of_reachable _ _ accepted reachable]
  unfold live?
  simp only [tell_ledger, tell_now, withStore]
  rw [SpendStore.release_of_live live, same]
  exact SpendStore.live?_eq_some.mpr ⟨Assoc.get?_insert_self _ _ _, ends⟩

/-! All together -/

def counting (operation : Gate → Except String String × Gate) (g : Gate) :
    StateM Nat (Except String String × Gate) := do
  modify (· + 1)
  pure (operation g)

/-- What an admission has to come to, with the number of times its operation was
started. -/
structure Proceeds (g : Gate) (tenant dependency : String) (cost : Float)
    (operation : Gate → Except String String × Gate) (admitted : Admitted)
    (after : Gate) (calls : Nat) : Prop where
  once : calls ≤ 1
  invoked : calls = 1 ↔ isAmount cost ∧ g.ledger.outage = none ∧
    g.fits tenant cost ∧ g.grants dependency
  reported : admitted.invoked ↔ calls = 1
  succeeded : ∀ value, admitted.result = .ok value ↔
    calls = 1 ∧ (operation (g.start tenant dependency cost).2).1 = .ok value
  failed : ∀ error, admitted.result = .error (.operationFailed error) ↔
    calls = 1 ∧ (operation (g.start tenant dependency cost).2).1 = .error error
  stopped : ∀ stage, g.obstacle? tenant dependency cost = some stage →
    (∃ refusal, admitted.result = .error refusal ∧ refusal.outcome = stage) ∧
      g.StopsAt stage dependency after
  cancelled : ∀ call started,
    g.start tenant dependency cost = (.running call, started) →
      ∀ later : Gate, (later.cancel call).registry = later.registry ∧
        (later.ledger.outage = none → ∀ e, later.live? tenant = some e →
          e.period = call.hold.period →
            let total := max 0 (Micros.sub e.total (Micros.ofAmount cost))
            (later.cancel call).live? tenant = some { e with total })

theorem obstacle?_ne_operationFailed {stage : AdmissionOutcome}
    (obstacle : g.obstacle? tenant dependency cost = some stage) :
    stage ≠ .operationFailed := by
  rintro rfl
  unfold obstacle? at obstacle
  split at obstacle
  · cases obstacle
  · split at obstacle
    · cases obstacle
    · split at obstacle
      · cases obstacle
      · split at obstacle
        · cases obstacle
        · cases obstacle

theorem Proceeds.idle {operation : Gate → Except String String × Gate}
    {admitted : Admitted} {after : Gate} {calls : Nat}
    (proceeds :
      g.Proceeds tenant dependency cost operation admitted after calls)
    {stage : AdmissionOutcome}
    (obstacle : g.obstacle? tenant dependency cost = some stage) :
    calls = 0 := by
  have once := proceeds.once
  have refused : calls ≠ 1 := by
    intro started
    have free := obstacle?_eq_none_iff.mpr (proceeds.invoked.mp started)
    rw [obstacle] at free
    cases free
  omega

theorem proceeds_of_refused {operation : Gate → Except String String × Gate}
    {stage : AdmissionOutcome} {refusal : Refusal} {after : Gate}
    (obstacle : g.obstacle? tenant dependency cost = some stage)
    (refused : g.start tenant dependency cost = (.refused refusal, after))
    (kind : refusal.outcome = stage)
    (stops : g.StopsAt stage dependency after) :
    g.Proceeds tenant dependency cost operation ⟨.error refusal, false⟩ after 0
    where
  once := Nat.zero_le 1
  invoked := by
    rw [← obstacle?_eq_none_iff, obstacle]
    simp
  reported := by simp
  succeeded := by simp
  failed error := by
    have other := obstacle?_ne_operationFailed obstacle
    constructor
    · intro same
      cases same
      exact absurd kind.symm other
    · intro ran
      cases ran.1
  stopped := by
    rw [obstacle]
    intro again same
    cases same
    exact ⟨⟨refusal, rfl, kind⟩, stops⟩
  cancelled call started running := by
    rw [refused] at running
    cases running

theorem proceeds_of_running {operation : Gate → Except String String × Gate}
    {period : Nat} {started : Gate}
    (free : g.obstacle? tenant dependency cost = none)
    (running : g.start tenant dependency cost =
      (.running ⟨⟨tenant, cost, period⟩, dependency⟩, started)) :
    let finished := (operation started).2.finish
      ⟨⟨tenant, cost, period⟩, dependency⟩ (operation started).1
    g.Proceeds tenant dependency cost operation ⟨finished.1, true⟩ finished.2
      1 := by
  intro finished
  have passed := obstacle?_eq_none_iff.mp free
  exact {
    once := Nat.le_refl 1
    invoked := by simp [passed]
    reported := by simp
    succeeded := by
      intro value
      simp only [running, finished]
      cases (operation started).1 with
      | ok done => simp
      | error message => simp
    failed := by
      intro error
      simp only [running, finished]
      cases (operation started).1 with
      | ok done => simp
      | error message => simp
    stopped := by
      rw [free]
      exact nofun
    cancelled := by
      intro call begun same later
      rw [running] at same
      cases same
      refine ⟨refund_registry _ _ _, ?_⟩
      intro reachable e live current
      exact cancel_live? ⟨⟨tenant, cost, period⟩, dependency⟩ passed.1 reachable
        live current }

/-- An admission asks its stages in order, and its operation runs once if none
of them objects, and else not at all. -/
theorem admission_proceeds_in_order (g : Gate) (tenant dependency : String)
    (cost : Float) (operation : Gate → Except String String × Gate)
    (answered : (g.reserve tenant cost).1 ≠ .error .clockOverflow) :
    ∃ admitted after calls,
      (g.admissionWith tenant dependency cost (counting operation)).run 0 =
        ((some admitted, after), calls) ∧
      g.Proceeds tenant dependency cost operation admitted after calls := by
  cases obstacle : g.obstacle? tenant dependency cost with
  | some stage =>
      obtain ⟨refusal, after, refused, kind, stops⟩ :=
        start_of_obstacle answered obstacle
      refine ⟨⟨.error refusal, false⟩, after, 0, ?_,
        proceeds_of_refused obstacle refused kind stops⟩
      unfold admissionWith
      rw [refused]
      rfl
  | none =>
      obtain ⟨period, started, running⟩ := start_of_none answered obstacle
      refine ⟨_, _, 1, ?_, proceeds_of_running obstacle running⟩
      unfold admissionWith
      rw [running]
      rfl

/-- A call goes through, and does not while its breaker is open. Of a limit of 50
with 30 spent a call takes the 20 that are left, and one that is dearer by half
of one stays charged without a call. -/
theorem admission_proceeds_in_order_done :
    let g : Gate := .ofSettings {}
    let tight : Gate :=
      ((Gate.ofSettings { budget := { defaultLimit := 50 } }).reserve "a" 30).2
    let operation (g : Gate) : Except String String × Gate := (.ok "done", g)
    ((g.reserve "a" 1).1 ≠ .error .clockOverflow ∧ ∃ admitted after,
      (g.admissionWith "a" "b" 1 (counting operation)).run 0 =
        ((some admitted, after), 1) ∧ admitted.result = .ok "done") ∧
    (((g.forceOpen "b").reserve "a" 1).1 ≠ .error .clockOverflow ∧
      ∃ admitted after refusal,
        ((g.forceOpen "b").admissionWith "a" "b" 1 (counting operation)).run
          0 = ((some admitted, after), 0) ∧
        admitted.result = .error refusal ∧ refusal.outcome = .breakerOpen) ∧
    ((tight.reserve "a" 20).1 ≠ .error .clockOverflow ∧ ∃ admitted after,
      (tight.admissionWith "a" "b" 20 (counting operation)).run 0 =
        ((some admitted, after), 1) ∧ admitted.result = .ok "done" ∧
      after.spent "a" = 50000000) ∧
    (tight.reserve "a" 20.5).1 ≠ .error .clockOverflow ∧
      ∃ admitted after refusal,
        (tight.admissionWith "a" "b" 20.5 (counting operation)).run 0 =
          ((some admitted, after), 0) ∧
        admitted.result = .error refusal ∧ refusal.outcome = .budgetExceeded ∧
        refusal.message =
          "budget exceeded for tenant 'a': 50.5000 > 50.0000" ∧
        after.registry = tight.registry ∧ after.spent "a" = 50500000 := by
  intro g tight operation
  have charged (g : Gate) (cost : Float)
      (given : ((g.reserve "a" cost).1 matches .ok _) = true) :
      (g.reserve "a" cost).1 ≠ .error .clockOverflow := by
    intro overflow
    rw [overflow] at given
    cases given
  have first := charged g 1 (by decide +kernel)
  have second := charged (g.forceOpen "b") 1 (by decide +kernel)
  have third := charged tight 20 (by decide +kernel)
  have last := charged tight 20.5 (by decide +kernel)
  refine ⟨⟨first, ?_⟩, ⟨second, ?_⟩, ⟨third, ?_⟩, last, ?_⟩
  · obtain ⟨admitted, after, calls, ran, proceeds⟩ :=
      admission_proceeds_in_order g "a" "b" 1 operation first
    obtain rfl : calls = 1 :=
      proceeds.invoked.mpr ⟨by decide +kernel, rfl, by decide +kernel, rfl⟩
    exact ⟨admitted, after, ran, (proceeds.succeeded "done").mpr ⟨rfl, rfl⟩⟩
  · obtain ⟨admitted, after, calls, ran, proceeds⟩ :=
      admission_proceeds_in_order (g.forceOpen "b") "a" "b" 1 operation second
    have obstacle : (g.forceOpen "b").obstacle? "a" "b" 1 =
        some .breakerOpen := by decide +kernel
    obtain rfl := proceeds.idle obstacle
    obtain ⟨⟨refusal, refused, kind⟩, -⟩ := proceeds.stopped _ obstacle
    exact ⟨admitted, after, refusal, ran, refused, kind⟩
  · obtain ⟨admitted, after, calls, ran, proceeds⟩ :=
      admission_proceeds_in_order tight "a" "b" 20 operation third
    have free : tight.obstacle? "a" "b" 20 = none := by decide +kernel
    obtain rfl : calls = 1 :=
      proceeds.invoked.mpr (obstacle?_eq_none_iff.mp free)
    have spent : ((tight.admissionWith "a" "b" 20 (counting operation)).run
        0).1.2.spent "a" = 50000000 := by decide +kernel
    rw [ran] at spent
    have done : (operation (tight.start "a" "b" 20).2).1 = .ok "done" := rfl
    exact ⟨admitted, after, ran, (proceeds.succeeded "done").mpr ⟨rfl, done⟩,
      spent⟩
  · obtain ⟨admitted, after, calls, ran, proceeds⟩ :=
      admission_proceeds_in_order tight "a" "b" 20.5 operation last
    have obstacle : tight.obstacle? "a" "b" 20.5 = some .budgetExceeded := by
      decide +kernel
    obtain rfl := proceeds.idle obstacle
    obtain ⟨⟨refusal, refused, kind⟩, stops⟩ := proceeds.stopped _ obstacle
    have told : ((tight.admissionWith "a" "b" 20.5 (counting operation)).run
        0).1.1.bind (fun admitted =>
          ((admitted.result.mapError Refusal.message).tryCatch .ok).toOption) =
        some "budget exceeded for tenant 'a': 50.5000 > 50.0000" := by
      decide +kernel
    have spent : ((tight.admissionWith "a" "b" 20.5 (counting operation)).run
        0).1.2.spent "a" = 50500000 := by decide +kernel
    rw [ran] at told spent
    rw [Option.bind_some, refused] at told
    exact ⟨admitted, after, refusal, ran, refused, kind, Option.some.inj told,
      stops.registry nofun, spent⟩

end Gate

end Tollgate
