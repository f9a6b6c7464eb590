import Tollgate.Proofs.Breaker.Isolation
import Tollgate.Proofs.Breaker.Refusal
import Tollgate.Proofs.Plaza.Basic

/-!
What the clock can hold. Only the end of a period that begins can be too late
for it; all else that is worked out from the settings stays in range. Settings
are accepted however long a period is, so it takes no more than the first
charge.
-/

namespace Tollgate

namespace Registry

variable {r : Registry} {now later : Nat}

/-- No breaker has failed later than now, and none is open without failure. -/
def Dated (r : Registry) (now : Nat) : Prop :=
  ∀ dependency b, r.get? dependency = some b → b.Dated now

theorem Dated.mono (dated : r.Dated now) (passed : now ≤ later) :
    r.Dated later :=
  fun dependency b made => (dated dependency b made).mono passed

theorem Dated.perform (dated : r.Dated now) (op : RegistryOp) :
    (r.perform now op).2.2.Dated now := by
  intro dependency after made
  have fresh : (r.fresh dependency).Dated now := Breaker.dated_fresh _ _ now
  refine of_get?_perform made fresh (dated dependency) ?_
  intro b op before
  exact before.perform op

end Registry

theorem RegistryOp.overflowed_not_mem_facts (op : RegistryOp)
    (reply : RegistryReply) : .overflowed ∉ op.facts reply := by
  unfold facts
  split
  · exact List.not_mem_cons_of_ne_of_not_mem nofun List.not_mem_nil
  · exact List.not_mem_nil

namespace Gate

variable {g h : Gate} {facts : List Fact}

theorem Moves.dated (moves : g.Moves h) (dated : g.registry.Dated g.now) :
    h.registry.Dated h.now := by
  induction moves with
  | refl => exact dated
  | records moves telemetry ih => exact ih
  | store moves op fair ih => exact ih
  | registry moves op ih => exact ih.perform op

theorem Undergoes.dated (undergoes : g.Undergoes h)
    (dated : g.registry.Dated g.now) : h.registry.Dated h.now :=
  undergoes.registry ▸ dated.mono undergoes.passed

/-- No time passes while a gate speaks, and the period in force stays the same,
so an overflow shows at the outset. -/
theorem Speaks.late (speaks : g.Speaks facts h)
    (overflowed : .overflowed ∈ facts) :
    Clock.limit ≤ g.now + g.ledger.budget.period := by
  induction speaks with
  | refl => cases overflowed
  | logs speaks event plain ih => exact ih overflowed
  | reads speaks read ih => exact ih overflowed
  | store speaks op fair ih => exact ih overflowed
  | registry speaks op ih =>
      refine ih ((List.mem_append.mp overflowed).resolve_right ?_)
      exact op.overflowed_not_mem_facts _
  | overflows speaks late ih =>
      rw [Clock.after?_eq_none_iff, speaks.moves.now,
        speaks.moves.rules.budget] at late
      exact late
  | refunds speaks reason ih => exact ih (by simpa using overflowed)
  | completes speaks outcome ih => exact ih (by simpa using overflowed)

theorem charge_of_late {tenant dependency : String} {cost : Float}
    (accepted : isAmount cost) (reachable : g.ledger.outage = none)
    (ended : g.ledger.store.live? g.now (g.ledger.keyFor tenant) = none)
    (late : Clock.limit ≤ g.now + g.ledger.budget.period) :
    (g.charge tenant dependency cost).1 = .clockOverflow := by
  have unfit := (Clock.after?_eq_none_iff _ _).mpr late
  rw [charge_of_overflow accepted reachable
    (SpendStore.reserve_of_unfit ended unfit _ _)]

end Gate

/-- The event puts no period in force that is longer, and asks the store for
nothing past the ledger. -/
def PlazaEvent.IsWithin (longest : Nat) : PlazaEvent → Prop
  | .step (.store _) => False
  | .step (.updateBudget change) =>
      ∀ secs, change.periodSecs = some secs → secs ≤ longest
  | .step (.reload toml) =>
      ∀ settings, Settings.ofToml toml = .ok settings →
        settings.budget.periodSecs ≤ longest
  | .move (.updateBudget budget) => budget.periodSecs ≤ longest
  | _ => True

theorem BudgetChange.apply_within (change : BudgetChange)
    {budget : BudgetSettings} {longest : Nat}
    (within : budget.periodSecs ≤ longest)
    (changed : ∀ secs, change.periodSecs = some secs → secs ≤ longest) :
    (change.apply budget).periodSecs ≤ longest := by
  unfold apply
  cases given : change.periodSecs with
  | none => exact within
  | some secs => exact changed secs given

theorem Session.reload_within (s : Session) {toml : String} {longest : Nat}
    (within : s.gate.ledger.budget.periodSecs ≤ longest)
    (offered : ∀ settings, Settings.ofToml toml = .ok settings →
      settings.budget.periodSecs ≤ longest) :
    (s.reload toml).2.gate.ledger.budget.periodSecs ≤ longest := by
  unfold reload
  split
  · rename_i settings valid
    exact offered settings valid
  · exact within

namespace Plaza

variable {p : Plaza} {event : PlazaEvent} {longest : Nat}

theorem run_dated (amounts : p.ChargesAmounts)
    (dated : p.gate.registry.Dated p.gate.now) (events : List PlazaEvent) :
    (p.run events).2.gate.registry.Dated (p.run events).2.gate.now :=
  run_invariant (P := fun _ g => g.registry.Dated g.now)
    (fun _ _ _ _ dated speaks => speaks.moves.dated dated)
    (fun _ _ _ dated undergoes => undergoes.dated dated) amounts [] dated events

theorem run_passed (amounts : p.ChargesAmounts) (events : List PlazaEvent) :
    p.gate.now ≤ (p.run events).2.gate.now :=
  run_invariant (P := fun _ g => p.gate.now ≤ g.now)
    (fun _ _ _ _ passed speaks => speaks.moves.now.symm ▸ passed)
    (fun _ _ _ passed undergoes => Nat.le_trans passed undergoes.passed)
    amounts [] (Nat.le_refl _) events

theorem late_of_overflowed (amounts : p.ChargesAmounts)
    (overflowed : .overflowed ∈ p.facts event) :
    Clock.limit ≤ p.gate.now + p.gate.ledger.budget.period := by
  cases own : event.befalls with
  | false => exact (next_speaks amounts own).late overflowed
  | true =>
      rw [(p.next_undergoes own).1] at overflowed
      cases overflowed

theorem next_within (amounts : p.ChargesAmounts)
    (within : p.gate.ledger.budget.periodSecs ≤ longest)
    (allowed : event.IsWithin longest) :
    (p.next event).gate.ledger.budget.periodSecs ≤ longest := by
  cases own : event.befalls with
  | false =>
      rw [(next_speaks amounts own).moves.rules.budget]
      exact within
  | true =>
      cases event with
      | step step =>
          cases step with
          | advance | setOutage => exact within
          | store => cases allowed
          | updateBudget change => exact change.apply_within within allowed
          | reload toml => exact p.session.reload_within within allowed
          | _ => cases own
      | move m =>
          cases m with
          | advance | setOutage => exact within
          | updateBudget budget => exact allowed
          | _ => cases own

/-- The clock can hold the end of every period that begins. -/
theorem run_not_overflowed (amounts : p.ChargesAmounts)
    (within : p.gate.ledger.budget.periodSecs ≤ longest)
    {events : List PlazaEvent} (each : ∀ event ∈ events, event.IsWithin longest)
    (fits : (p.run events).2.gate.now + Clock.secs longest < Clock.limit) :
    .overflowed ∉ (p.run events).1 := by
  induction events generalizing p with
  | nil => exact List.not_mem_nil
  | cons event rest ih =>
      rw [run_cons] at fits ⊢
      dsimp only at fits
      have next := amounts.next event
      intro overflowed
      rcases List.mem_append.mp overflowed with now | later
      · have late := late_of_overflowed amounts now
        have passed : p.gate.now ≤ ((p.next event).run rest).2.gate.now :=
          run_passed amounts (event :: rest)
        have shorter : p.gate.ledger.budget.period ≤ Clock.secs longest :=
          Nat.mul_le_mul_right _ within
        omega
      · exact ih next
          (next_within amounts within (each event List.mem_cons_self))
          (fun other member => each other (List.mem_cons_of_mem _ member))
          fits later

def chargedAt (time : Nat) (tenant dependency : String) (cost : Float) :
    List PlazaEvent :=
  [.step (.advance time), .move (.arrive tenant dependency cost)]

theorem chargedAt_now (settings : Settings) (time : Nat)
    (tenant dependency : String) (cost : Float) :
    ((ofSettings settings).run
      (chargedAt time tenant dependency cost)).2.gate.now = time := by
  let waited := (ofSettings settings).next (.step (.advance time))
  let arrival : PlazaEvent := .move (.arrive tenant dependency cost)
  have speaks : waited.gate.Speaks (waited.facts arrival)
      (waited.next arrival).gate := next_speaks nofun rfl
  exact speaks.moves.now.trans (Nat.zero_add time)

theorem overflowed_of_late (settings : Settings) {time : Nat}
    (late : Clock.limit ≤ time + settings.budget.period)
    (tenant dependency : String) {cost : Float} (accepted : isAmount cost) :
    .overflowed ∈ ((ofSettings settings).run
      (chargedAt time tenant dependency cost)).1 := by
  let waited := (ofSettings settings).next (.step (.advance time))
  rw [← Nat.zero_add time] at late
  have overflows :
      (waited.gate.charge tenant dependency cost).1 = .clockOverflow :=
    Gate.charge_of_late accepted rfl rfl late
  have told : .overflowed ∈ waited.traffic.unchargedFacts
      (.arrive tenant dependency cost) := by
    change .overflowed ∈ (waited.gate.charge tenant dependency cost).1.facts
    rw [overflows]
    exact List.mem_singleton.mpr rfl
  have arrived : .overflowed ∈
      waited.facts (.move (.arrive tenant dependency cost)) :=
    List.mem_append_left _ told
  exact List.mem_append_right _ (List.mem_append_left _ arrived)

/-- Up to the time, the clock is in no danger exactly if it can hold the end of
a period that begins then: no run in which the period is not made longer
overflows it by then, and otherwise a charge at that time does. And in all runs,
whatever the times, a breaker that refuses knows of its last failure, which is
not ahead, and the time that has passed since and the time that is left make up
its reset timeout. -/
theorem never_overflows_iff_period_fits (settings : Settings) :
    (∀ time,
      (∀ events, (∀ event ∈ events,
          event.IsWithin settings.budget.periodSecs) →
        ((ofSettings settings).run events).2.gate.now ≤ time →
          .overflowed ∉ ((ofSettings settings).run events).1) ↔
        time + settings.budget.period < Clock.limit) ∧
      ∀ events dependency b rest,
        let gate := ((ofSettings settings).run events).2.gate
        gate.registry.get? dependency = some b →
          b.retryAfter? gate.now = some rest →
            ∃ failure ≤ gate.now, b.lastFailure = some failure ∧
              gate.now - failure + rest = b.config.resetTimeout := by
  have amounts : (ofSettings settings).ChargesAmounts := nofun
  constructor
  · intro time
    constructor
    · intro never
      refine Decidable.byContradiction fun late => ?_
      refine never (chargedAt time "acme" "openai" 0) ?_
        (Nat.le_of_eq (chargedAt_now settings time "acme" "openai" 0))
        (overflowed_of_late settings (Nat.le_of_not_lt late) "acme" "openai"
          (by decide +kernel))
      intro event member
      rcases List.mem_pair.mp member with rfl | rfl
      · trivial
      · trivial
    · intro fits events each before
      refine run_not_overflowed amounts (Nat.le_refl _) each ?_
      exact Nat.lt_of_le_of_lt (Nat.add_le_add_right before _) fits
  · intro events dependency b rest gate made wait
    have dated : gate.registry.Dated gate.now := run_dated amounts nofun events
    obtain ⟨failure, past, since, edge⟩ :=
      (dated dependency b made).retryAfter?_eq_some.mp wait
    exact ⟨failure, past, since.last, by omega⟩

/-- A text that is accepted, and the first admission under it. -/
theorem overflows_at_once_under_accepted_text :
    let toml := "[budget]\nperiod_secs = 9223372036854775807\n"
    let call := CallTarget.dependency "openai" 1
    (Settings.ofToml toml).toOption.map (fun settings =>
      ((ofSettings settings).run
        [.step (.admission "acme" call (.ok "done"))]).1) =
      some [.overflowed] := by
  decide +kernel

end Plaza

end Tollgate
