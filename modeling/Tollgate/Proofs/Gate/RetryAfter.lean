import Tollgate.Proofs.Number.Seconds
import Tollgate.Proofs.Plaza.Clock

/-!
How long a client is told to wait. The answer to an admission that the breaker
turned away carries the time that is left, in whole seconds, rounded up. At the
very end of that time the breaker still refuses, so a client that comes back
when it was told to is admitted exactly if there was something to round up, and
nothing was lost in rounding.
-/

namespace Tollgate

namespace Breaker

variable {b : Breaker} {edge now failure : Nat} {op : BreakerOp}
  {ops : List (Nat × BreakerOp)}

def GrantsFrom (b : Breaker) (edge : Nat) : Prop :=
  ∀ again, edge ≤ again → b.grants again

theorem grantsFrom_of_state (other : b.state ≠ .opened) (edge : Nat) :
    b.GrantsFrom edge := by
  intro again passed
  simp [grants, other]

theorem OpenSince.grantsFrom_iff (since : b.OpenSince failure) (edge : Nat) :
    b.GrantsFrom edge ↔ failure + b.config.resetTimeout < edge := by
  constructor
  · intro grants
    exact (since.grants_iff edge).mp (grants edge (Nat.le_refl edge))
  · intro past again passed
    exact (since.grants_iff again).mpr (Nat.lt_of_lt_of_le past passed)

namespace GrantsFrom

theorem perform (grants : b.GrantsFrom edge) (unfailed : op ≠ .recordFailure)
    (unforced : op ≠ .forceOpen) :
    (b.perform now op).2.breaker.GrantsFrom edge := by
  have change := b.perform_change now op
  have config := b.perform_config now op
  generalize (b.perform now op).2.breaker = next at change config ⊢
  generalize state : next.state = entered at change
  generalize last : next.lastFailure = found at change
  cases change with
  | kept =>
      intro again passed
      have before := grants again passed
      unfold Breaker.grants at before ⊢
      rwa [state, last, config]
  | trial | recovered | reset =>
      exact grantsFrom_of_state (by rw [state]; exact nofun) edge
  | failed => exact absurd rfl unfailed
  | forced => exact absurd rfl unforced

theorem run (grants : b.GrantsFrom edge)
    (spared : ∀ event ∈ ops, event.2 ≠ .recordFailure ∧ event.2 ≠ .forceOpen) :
    (b.run ops).2.GrantsFrom edge := by
  induction ops generalizing b with
  | nil => exact grants
  | cons event rest ih =>
      obtain ⟨unfailed, unforced⟩ := spared event List.mem_cons_self
      exact ih (grants.perform unfailed unforced)
        fun other member => spared other (List.mem_cons_of_mem _ member)

end GrantsFrom

end Breaker

namespace Registry

variable {r : Registry} {b : Breaker} {dependency : String} {edge : Nat}

/-- Attempts on the dependency are granted from the instant on, whatever is
asked meanwhile, as long as its breaker hears of no failure and is not forced
open. -/
def GrantsFrom (r : Registry) (dependency : String) (edge : Nat) : Prop :=
  ∀ later again, edge ≤ again →
    (∀ event ∈ heard dependency later,
      event.2 ≠ .recordFailure ∧ event.2 ≠ .forceOpen) →
    ((r.run later).2.2.ask again dependency .acquire).1 = .granted

theorem ask_acquire_eq_granted_iff (made : r.get? dependency = some b)
    (now : Nat) :
    (r.ask now dependency .acquire).1 = .granted ↔ b.grants now := by
  rw [ask_eq, found_of_some made, Breaker.perform_eq_granted_iff]
  exact and_iff_right rfl

theorem grantsFrom_iff (made : r.get? dependency = some b) :
    r.GrantsFrom dependency edge ↔ b.GrantsFrom edge := by
  constructor
  · intro grants again passed
    exact (ask_acquire_eq_granted_iff made again).mp
      (grants [] again passed nofun)
  · intro grants later again passed spared
    have asked := get?_run_of_some made later
    exact (ask_acquire_eq_granted_iff asked again).mpr
      (grants.run spared again passed)

end Registry

namespace Gate

variable {g after : Gate} {tenant dependency : String} {cost : Float}
  {circuit : CircuitOpen}

/-- An admission is turned away by the breaker of the dependency, in one go or
when it comes to ask the breaker. -/
inductive TurnsAway (g : Gate) (dependency : String) (circuit : CircuitOpen)
    (after : Gate) : Prop where
  | started (tenant : String) (cost : Float)
      (entered : g.start tenant dependency cost =
        (.refused (.breakerOpen circuit), after))
  | asked (hold : Hold)
      (attempted : g.attempt ⟨hold, dependency⟩ =
        (some (.breakerOpen circuit), after))

theorem TurnsAway.of_refused
    (refused : (g.acquire dependency).1 = some circuit) (hold : Hold) :
    ∃ after, g.TurnsAway dependency circuit after := by
  obtain ⟨next, asked⟩ : ∃ next, g.acquire dependency = (some circuit, next) :=
    ⟨_, Prod.ext refused rfl⟩
  refine ⟨(g.attempt ⟨hold, dependency⟩).2, .asked hold (Prod.ext ?_ rfl)⟩
  unfold attempt
  rw [asked]

/-- The breaker refuses, for as long as the circuit says, and is left as it was
but for stale failures. -/
structure TurnedAwayBy (g : Gate) (b : Breaker) (dependency : String)
    (circuit : CircuitOpen) (after : Gate) : Prop where
  made : g.registry.get? dependency = some b
  wait : b.retryAfter? g.now = some circuit.retryAfter
  pruned : after.registry = g.registry.put dependency (b.prune g.now)

theorem turnedAwayBy_of_attempt {hold : Hold}
    (attempted : g.attempt ⟨hold, dependency⟩ =
      (some (.breakerOpen circuit), after)) :
    ∃ b, g.TurnedAwayBy b dependency circuit after := by
  unfold attempt at attempted
  cases granted : g.grants dependency with
  | true =>
      obtain ⟨next, asked⟩ := acquire_of_granted granted
      rw [asked] at attempted
      cases attempted
  | false =>
      obtain ⟨b, rest, made, wait⟩ := wait_of_refused granted
      obtain ⟨next, asked, pruned⟩ := acquire_of_wait made wait
      rw [asked] at attempted
      cases attempted
      exact ⟨b, made, wait, pruned⟩

theorem attempt_of_enter {call : Call} {refusal : Refusal}
    (entered : g.enter call = (.refused refusal, after)) :
    ∃ asked, g.attempt call = (some refusal, asked) ∧
      after.registry = asked.registry := by
  unfold enter at entered
  split at entered
  · cases entered
  · rename_i attempted
    cases entered
    exact ⟨_, attempted, refund_registry _ _ _⟩

theorem turnedAwayBy_of_start
    (started : g.start tenant dependency cost =
      (.refused (.breakerOpen circuit), after)) :
    ∃ b, g.TurnedAwayBy b dependency circuit after := by
  have given := g.charge_gives tenant dependency cost
  unfold start at started
  generalize g.charge tenant dependency cost = result at given started
  cases given with
  | invalid | unavailable | overflow => cases started
  | charged answer store accepted reachable charged =>
      cases allowed : answer.allowed with
      | false =>
          simp only [allowed, Bool.false_eq_true, if_false] at started
          split at started
          · cases started
          · cases started
      | true =>
          simp only [allowed, if_true] at started
          obtain ⟨asked, attempted, same⟩ := attempt_of_enter started
          obtain ⟨b, made, wait, pruned⟩ := turnedAwayBy_of_attempt attempted
          -- The charge has left the breakers and the time as they were.
          exact ⟨b, made, wait, same.trans pruned⟩

theorem TurnsAway.turnedAwayBy
    (turnsAway : g.TurnsAway dependency circuit after) :
    ∃ b, g.TurnedAwayBy b dependency circuit after := by
  cases turnsAway with
  | started tenant cost entered => exact turnedAwayBy_of_start entered
  | asked hold attempted => exact turnedAwayBy_of_attempt attempted

/-- The end of the time that is left is the last instant of it. -/
theorem TurnsAway.grantsFrom_iff
    (turnsAway : g.TurnsAway dependency circuit after)
    (dated : g.registry.Dated g.now) (edge : Nat) :
    after.registry.GrantsFrom dependency edge ↔
      g.now + circuit.retryAfter < edge := by
  obtain ⟨b, made, wait, pruned⟩ := turnsAway.turnedAwayBy
  obtain ⟨failure, past, since, last⟩ :=
    (dated dependency b made).retryAfter?_eq_some.mp wait
  have left : after.registry.get? dependency = some (b.prune g.now) := by
    rw [pruned]
    exact Assoc.get?_insert_self _ _ _
  have still : (b.prune g.now).OpenSince failure := ⟨since.opened, since.last⟩
  rw [Registry.grantsFrom_iff left, still.grantsFrom_iff, ← last]
  rfl

end Gate

namespace Plaza

/-- Coming back when told to is enough exactly if the seconds of the answer are
more than the time that was left, and a nanosecond later exactly if they are not
less. Below `2 ^ 24` seconds they never are less, and they are more unless the
time that was left came to whole seconds. -/
theorem retry_after_suffices_iff (settings : Settings)
    (events : List PlazaEvent) {dependency : String} {circuit : CircuitOpen}
    {after : Gate}
    (turnsAway : ((ofSettings settings).run events).2.gate.TurnsAway dependency
      circuit after) :
    ∃ secs, (Refusal.breakerOpen circuit).response.retryAfter = some secs ∧
      let told := ((ofSettings settings).run events).2.gate.now +
        Clock.secs secs
      (after.registry.GrantsFrom dependency told ↔
          circuit.retryAfter < Clock.secs secs) ∧
        (after.registry.GrantsFrom dependency (told + 1) ↔
          circuit.retryAfter ≤ Clock.secs secs) ∧
        (circuit.retryAfter < Clock.secs (2 ^ 24) →
          circuit.retryAfter ≤ Clock.secs secs ∧
            (circuit.retryAfter = Clock.secs secs ↔
              Clock.secs 1 ∣ circuit.retryAfter)) := by
  have amounts : (ofSettings settings).ChargesAmounts := nofun
  have edge := turnsAway.grantsFrom_iff (run_dated amounts nofun events)
  refine ⟨Refusal.ceilSecs circuit.retryAfter, rfl, ?_⟩
  intro told
  refine ⟨(edge told).trans Nat.add_lt_add_iff_left,
    (edge (told + 1)).trans ?_, Refusal.secs_ceilSecs⟩
  exact Nat.lt_succ_iff.trans Nat.add_le_add_iff_left

/-- One and a half seconds are rounded up, and to come back after two is enough.
One second is advertised as it is, and is a nanosecond too short. -/
theorem retry_after_suffices_iff_rounded_up :
    let settings (timeout : Nat) : Settings :=
      { breaker := { defaults := ⟨1, timeout, 60000⟩ } }
    let events : List PlazaEvent := [.step (.breaker "openai" (.failures 1))]
    let gate (timeout : Nat) :=
      ((ofSettings (settings timeout)).run events).2.gate
    (∃ after, (gate 1500).TurnsAway "openai" ⟨"openai", 1500000000⟩ after ∧
        after.registry.GrantsFrom "openai" (Clock.secs 2)) ∧
      ∃ after, (gate 1000).TurnsAway "openai" ⟨"openai", 1000000000⟩ after ∧
        ¬ after.registry.GrantsFrom "openai" (Clock.secs 1) ∧
        after.registry.GrantsFrom "openai" (Clock.secs 1 + 1) := by
  intro settings events gate
  let hold : Hold := ⟨"acme", 1, 0⟩
  have start (timeout : Nat) : (gate timeout).now = 0 := rfl
  constructor
  · have refused : ((gate 1500).acquire "openai").1 =
        some ⟨"openai", 1500000000⟩ := by decide +kernel
    obtain ⟨after, turnsAway⟩ := Gate.TurnsAway.of_refused refused hold
    obtain ⟨secs, told, grants, -⟩ :=
      retry_after_suffices_iff (settings 1500) events turnsAway
    have up : Refusal.ceilSecs 1500000000 = 2 := by decide +kernel
    obtain rfl : 2 = secs := up.symm.trans (Option.some.inj told)
    rw [start, Nat.zero_add] at grants
    exact ⟨after, turnsAway, grants.mpr (by decide)⟩
  · have refused : ((gate 1000).acquire "openai").1 =
        some ⟨"openai", 1000000000⟩ := by decide +kernel
    obtain ⟨after, turnsAway⟩ := Gate.TurnsAway.of_refused refused hold
    obtain ⟨secs, told, grants, later, -⟩ :=
      retry_after_suffices_iff (settings 1000) events turnsAway
    have same : Refusal.ceilSecs 1000000000 = 1 := by decide +kernel
    obtain rfl : 1 = secs := same.symm.trans (Option.some.inj told)
    rw [start, Nat.zero_add] at grants later
    exact ⟨after, turnsAway, fun early => absurd (grants.mp early) (by decide),
      later.mpr (by decide)⟩

/-- The reset timeout is a second more than `2 ^ 24` seconds, and all but a
nanosecond of that second has passed when a call is turned away. The nanosecond
is lost, so a caller who comes back when told to is refused once more. -/
theorem refused_after_rounding_down :
    let settings : Settings :=
      { breaker := { defaults := ⟨1, 16777217000, 60000⟩ } }
    let events : List PlazaEvent :=
      [.step (.breaker "openai" (.failures 1)), .step (.advance 999999999)]
    let gate := ((ofSettings settings).run events).2.gate
    let asked := gate.start "acme" "openai" 1
    let secs := match asked.1 with
      | .refused refusal => refusal.response.retryAfter
      | _ => none
    secs = some 16777216 ∧
      (asked.2.registry.ask (gate.now + Clock.secs 16777216) "openai"
        .acquire).1 = .refused ⟨"openai", 1⟩ := by
  decide +kernel

end Plaza

end Tollgate
