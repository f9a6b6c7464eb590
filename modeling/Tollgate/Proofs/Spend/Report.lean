import Tollgate.Proofs.Spend.Ledger
import Tollgate.Proofs.Spend.Live
import Tollgate.Session.Run

/-!
Reports against charges. A report reads the total that a tenant has, and drops
what is left of an ended period; a charge adds to the total first and compares
then. They come to the same answer, as long as charges are answered at all.
-/

namespace Tollgate

namespace Micros

variable {total limit amount : Int}

theorem add_one_le_of_lt (below : total < limit) (low : least ≤ limit) :
    add total 1 ≤ limit := by
  unfold add saturate
  split
  · exact low
  · split <;> omega

theorem lt_add_of_le (reached : limit ≤ total) (passable : limit < greatest)
    (counted : 1 ≤ amount) : limit < add total amount := by
  unfold add saturate
  split
  · omega
  · split <;> omega

end Micros

namespace Ledger

/-- A cost that is charged as one micro-unit at least. -/
def IsCounted (cost : Float) : Prop :=
  isAmount cost ∧ 1 ≤ Micros.ofAmount cost

/-- Whether a charge would be allowed, if it got an answer. -/
def verdict? (l : Ledger) (now : Nat) (tenant : String) (cost : Float) :
    Option Bool :=
  (l.reserve now tenant cost).1.toOption.map (·.isAllowed)

/-- The tenant's period lasts, or the clock can hold the end of a new one. -/
def Answers (l : Ledger) (now : Nat) (tenant : String) : Prop :=
  l.store.live? now (l.keyFor tenant) ≠ none ∨
    now + l.budget.period < Clock.limit

/-- The tenant is said to be at its limit exactly if every charge that counts
would be denied, and not to be exactly if one of them would be allowed. -/
structure StatusAgrees (l : Ledger) (now : Nat) (tenant : String) : Prop where
  exhausted : (l.status now tenant).1 = .exhausted ↔
    ∀ cost, IsCounted cost → l.verdict? now tenant cost = some false
  ok : (l.status now tenant).1 = .ok ↔
    ∃ cost, IsCounted cost ∧ l.verdict? now tenant cost = some true

variable {l after : Ledger} {now : Nat} {tenant : String} {cost : Float}

/-! What is said of a ledger -/

theorem status_of_reachable (reachable : l.outage = none) (now : Nat)
    (tenant : String) :
    (l.status now tenant).1 =
      statusOf (l.store.liveTotal now (l.keyFor tenant))
        (Micros.ofAmount (l.limitFor tenant)) := by
  unfold status
  rw [current_of_reachable reachable, ← SpendStore.current_fst]
  rfl

theorem snapshot_of_reachable (reachable : l.outage = none) (now : Nat)
    (tenant : String) :
    (l.snapshot now tenant).1 =
      .ok (snapshotOf tenant (l.store.liveTotal now (l.keyFor tenant))
        (l.limitFor tenant)) := by
  unfold snapshot
  rw [current_of_reachable reachable, ← SpendStore.current_fst]
  rfl

theorem verdict?_of_answers (valid : isAmount cost)
    (reachable : l.outage = none) (answers : l.Answers now tenant) :
    l.verdict? now tenant cost =
      some (decide (Micros.add (l.store.liveTotal now (l.keyFor tenant))
        (Micros.ofAmount cost) ≤ Micros.ofAmount (l.limitFor tenant))) := by
  have fits : l.store.live? now (l.keyFor tenant) ≠ none ∨
      Clock.after? now l.budget.period ≠ none := by
    rw [ne_eq (Clock.after? _ _), Clock.after?_eq_none_iff, Nat.not_le]
    exact answers
  obtain ⟨charge, store, reserved, charged⟩ :=
    SpendStore.reserve_of_fits fits (Micros.ofAmount cost)
      (Micros.ofAmount (l.limitFor tenant))
  rw [verdict?, reserve_of_reachable valid reachable, reserved,
    ← charged.total, ← charged.allowed]
  rfl

theorem verdict?_of_unanswered (reachable : l.outage = none)
    (unanswered : ¬ l.Answers now tenant) (cost : Float) :
    l.verdict? now tenant cost = none := by
  obtain ⟨some, late⟩ := not_or.mp unanswered
  have ended := Classical.not_not.mp some
  have overflow : Clock.after? now l.budget.period = none :=
    (Clock.after?_eq_none_iff _ _).mpr (Nat.le_of_not_lt late)
  cases valid : isAmount cost with
  | false =>
      rw [verdict?, reserve_of_invalid valid]
      rfl
  | true =>
      rw [verdict?, reserve_of_reachable valid reachable,
        SpendStore.reserve_of_unfit ended overflow]
      rfl

theorem verdict?_current (l : Ledger) (now : Nat) (tenant : String)
    (cost : Float) :
    (l.current now tenant).2.verdict? now tenant cost =
      l.verdict? now tenant cost := by
  rcases l.outage.eq_none_or_eq_some with reachable | ⟨error, outage⟩
  · have read : (l.current now tenant).2 = _ :=
      congrArg Prod.snd (current_of_reachable reachable)
    generalize (l.current now tenant).2 = after at read ⊢
    have still : after.outage = none := by rw [read]; exact reachable
    have live : after.store.live? now (after.keyFor tenant) =
        l.store.live? now (l.keyFor tenant) := by
      rw [read]
      exact l.store.current_live? now (l.keyFor tenant) (l.keyFor tenant)
    have budget : after.budget = l.budget := by rw [read]
    have same : after.Answers now tenant ↔ l.Answers now tenant := by
      rw [Answers, Answers, live, budget]
    by_cases answers : l.Answers now tenant
    · cases valid : isAmount cost with
      | false =>
          rw [verdict?, verdict?, reserve_of_invalid valid,
            reserve_of_invalid valid]
      | true =>
          rw [verdict?_of_answers valid still (same.mpr answers),
            verdict?_of_answers valid reachable answers, SpendStore.liveTotal,
            SpendStore.liveTotal, live, limitFor, limitFor, budget]
    · rw [verdict?_of_unanswered still (answers ∘ same.mp),
        verdict?_of_unanswered reachable answers]
  · rw [current_of_outage outage]

/-! Reports and charges -/

theorem isCounted_micro :
    IsCounted 0.000001 ∧ Micros.ofAmount 0.000001 = 1 := by
  have one : Micros.ofAmount 0.000001 = 1 := by decide +kernel
  exact ⟨⟨by decide +kernel, Int.le_of_eq one.symm⟩, one⟩

theorem statusAgrees_of_answers (reachable : l.outage = none)
    (passable : Micros.ofAmount (l.limitFor tenant) < Micros.greatest)
    (answers : l.Answers now tenant) : l.StatusAgrees now tenant := by
  obtain ⟨counted, one⟩ := isCounted_micro
  have verdict (cost : Float) (counted : IsCounted cost) :
      l.verdict? now tenant cost = some _ :=
    verdict?_of_answers counted.1 reachable answers
  have said := status_of_reachable reachable now tenant
  unfold statusOf at said
  generalize l.store.liveTotal now (l.keyFor tenant) = total at verdict said
  by_cases reached : Micros.ofAmount (l.limitFor tenant) ≤ total
  · rw [if_pos reached] at said
    have denied : ∀ cost, IsCounted cost →
        l.verdict? now tenant cost = some false := by
      intro cost counted
      rw [verdict cost counted, Option.some.injEq, decide_eq_false_iff_not,
        Int.not_le]
      exact Micros.lt_add_of_le reached passable counted.2
    refine ⟨iff_of_true said denied, iff_of_false (by rw [said]; nofun) ?_⟩
    rintro ⟨cost, counted, allowed⟩
    rw [denied cost counted] at allowed
    cases allowed
  · rw [if_neg reached] at said
    have allowed : l.verdict? now tenant 0.000001 = some true := by
      rw [verdict _ counted, one, Option.some.injEq, decide_eq_true_eq]
      exact Micros.add_one_le_of_lt (Int.lt_of_not_ge reached)
        (Micros.least_le_round _)
    refine ⟨iff_of_false (by rw [said]; nofun) ?_,
      iff_of_true said ⟨_, counted, allowed⟩⟩
    intro denied
    rw [denied _ counted] at allowed
    cases allowed

/-- Without an answer to any charge, none is allowed and none is denied: the
tenant is neither at its limit nor below it. -/
theorem answers_of_statusAgrees (reachable : l.outage = none)
    (agrees : l.StatusAgrees now tenant) : l.Answers now tenant := by
  refine Classical.byContradiction fun unanswered => ?_
  have none := verdict?_of_unanswered reachable unanswered
  cases said : (l.status now tenant).1 with
  | ok =>
      obtain ⟨cost, counted, allowed⟩ := agrees.ok.mp said
      rw [none cost] at allowed
      cases allowed
  | exhausted =>
      have denied := agrees.exhausted.mp said _ isCounted_micro.1
      rw [none] at denied
      cases denied

/-- Whatever a ledger has been through, as long as its store is in reach: the
status of a tenant whose limit a total can pass agrees with the charges of that
instant exactly if they are answered, that is unless a period would have to
start that the clock cannot hold. The tenant may be new, its period live, at its
very end or over, and its limit below what it has spent. A snapshot has the same
status, and neither report makes a difference to any charge that follows. -/
theorem status_agrees_iff_charges_answered (l : Ledger) (now : Nat)
    (tenant : String) (reachable : l.outage = none)
    (passable : Micros.ofAmount (l.limitFor tenant) < Micros.greatest) :
    (l.StatusAgrees now tenant ↔
        l.store.live? now (l.keyFor tenant) ≠ none ∨
          now + l.budget.period < Clock.limit) ∧
      (∃ view, (l.snapshot now tenant).1 = .ok view ∧
        view.status = (l.status now tenant).1) ∧
      ∀ cost,
        (l.status now tenant).2.2.verdict? now tenant cost =
            l.verdict? now tenant cost ∧
          (l.snapshot now tenant).2.verdict? now tenant cost =
            l.verdict? now tenant cost := by
  refine ⟨⟨answers_of_statusAgrees reachable,
    statusAgrees_of_answers reachable passable⟩, ?_, ?_⟩
  · exact ⟨_, snapshot_of_reachable reachable now tenant,
      (status_of_reachable reachable now tenant).symm⟩
  · intro cost
    rw [status_ledger, snapshot_ledger]
    exact ⟨l.verdict?_current now tenant cost,
      l.verdict?_current now tenant cost⟩

/-- A limit comes down below what was spent of it: the tenant is at its limit up
to the last instant of its period, and not any more at the very end of it. -/
theorem status_agrees_iff_charges_answered_lowered_limit :
    let budget : BudgetSettings := { periodSecs := 60 }
    let charged := (reserve { budget } 0 "acme" 30).2.2
    let l := (charged.update { budget with defaultLimit := 20 }).2
    l.outage = none ∧
      Micros.ofAmount (l.limitFor "acme") < Micros.greatest ∧
      (l.status 59999999999 "acme").1 = .exhausted ∧
      l.StatusAgrees 59999999999 "acme" ∧
      (l.status 60000000000 "acme").1 = .ok ∧
      l.StatusAgrees 60000000000 "acme" := by
  intro budget charged l
  have reachable : l.outage = none := by decide +kernel
  have passable : Micros.ofAmount (l.limitFor "acme") < Micros.greatest := by
    decide +kernel
  have early := status_agrees_iff_charges_answered l 59999999999 "acme"
    reachable passable
  have late := status_agrees_iff_charges_answered l 60000000000 "acme"
    reachable passable
  exact ⟨reachable, passable, by decide +kernel,
    early.1.mpr (.inr (by decide +kernel)), by decide +kernel,
    late.1.mpr (.inr (by decide +kernel))⟩

/-- A text that is accepted, and a tenant without any charge under it: nothing
is spent of its limit, but no charge is allowed. -/
theorem status_disagrees_under_accepted_text :
    let toml := "[budget]\nperiod_secs = 9223372036854775807\n"
    ∃ settings, Settings.ofToml toml = .ok settings ∧
      let l := (Session.ofSettings settings).gate.ledger
      l.outage = none ∧
        Micros.ofAmount (l.limitFor "acme") < Micros.greatest ∧
        (l.status 0 "acme").1 = .ok ∧
        (∀ cost, l.verdict? 0 "acme" cost = none) ∧
        ¬ l.StatusAgrees 0 "acme" := by
  intro toml
  have read : (Settings.ofToml toml).toOption.map (fun settings =>
      (settings.budget.periodSecs,
        decide (Micros.ofAmount (settings.budget.limitFor "acme") <
          Micros.greatest),
        (Session.ofSettings settings).gate.ledger.status 0 "acme" |>.1)) =
      some (9223372036854775807, true, .ok) := by
    decide +kernel
  cases accepted : Settings.ofToml toml with
  | error violations =>
      rw [accepted] at read
      cases read
  | ok settings =>
      simp only [accepted, Except.toOption, Option.map_some, Option.some.injEq,
        Prod.mk.injEq, decide_eq_true_eq] at read
      obtain ⟨period, passable, said⟩ := read
      have unanswered :
          ¬ (Session.ofSettings settings).gate.ledger.Answers 0 "acme" := by
        rintro (live | fits)
        · exact live rfl
        · change 0 + Clock.secs settings.budget.periodSecs < _ at fits
          rw [period] at fits
          exact absurd fits (by decide)
      exact ⟨settings, rfl, rfl, passable, said,
        verdict?_of_unanswered rfl unanswered,
        unanswered ∘ answers_of_statusAgrees rfl⟩

end Ledger

end Tollgate
