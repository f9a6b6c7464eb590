import Mathlib.Data.List.Infix
import Tollgate.Proofs.Traffic.Books

/-!
Limits under concurrency. While the store's totals stay below the greatest word,
no tenant is let past its limit, in whatever order admissions, refunds, reports
and changes of settings come. A total that saturates forgets what does not fit,
and a refund then takes off more than the charge had added; a limit that
saturates itself lets totals come to that.
-/

namespace Tollgate.Traffic

variable {terms : Terms} {t after : Traffic} {tenant : String}

/-- The tenant's total is no less than what is outstanding in its period. -/
def Covers (t : Traffic) (tenant : String) : Prop :=
  ∀ e, t.gate.live? tenant = some e → t.outstanding tenant e.period ≤ e.total

theorem IsNew.covers (new : t.IsNew) (tenant : String) : t.Covers tenant := by
  intro e live
  rw [new.live?] at live
  cases live

theorem Covers.outstanding_le_spent (covers : t.Covers tenant)
    (sound : t.Sound terms) {amount limit : Int} {answer : Charge}
    {store : SpendStore}
    (charged : t.gate.ledger.store.Charged t.gate.now
      (t.gate.ledger.keyFor tenant) amount limit answer store) :
    t.outstanding tenant answer.period ≤ t.gate.spent tenant := by
  cases live : t.gate.live? tenant with
  | some e =>
      have total : t.gate.spent tenant = e.total :=
        SpendStore.liveTotal_of_live live
      rw [total, charged.same e live]
      exact covers e live
  | none =>
      have total : t.gate.spent tenant = 0 := SpendStore.liveTotal_of_none live
      rw [total]
      apply Int.le_of_eq
      apply sound.sumOf_of_fresh (charged.fresh live)
      intro ticket counts
      simp only [Ticket.isOf, Bool.and_eq_true, decide_eq_true_eq] at counts
      exact counts.1.1.2

theorem arrive_of_held {dependency : String} {cost : Float} {hold : Hold}
    {gate : Gate}
    (held : t.gate.charge tenant dependency cost = (.held hold, gate)) :
    t.arrive tenant dependency cost =
      ⟨gate, t.tickets ++ [{
        hold, dependency, allowed := true
        stage := .charged, guard := .armed }]⟩ := by
  unfold Traffic.arrive
  rw [held]

/-- With a charge that is allowed no more is outstanding than its limit, unless
the limit saturates. -/
theorem Covers.outstanding_add_le (covers : t.Covers tenant)
    (sound : t.Sound terms) {cost : Float} (accepted : isAmount cost)
    {limit : Int} (limited : limit < Micros.greatest) {answer : Charge}
    {store : SpendStore}
    (charged : t.gate.ledger.store.Charged t.gate.now
      (t.gate.ledger.keyFor tenant) (Micros.ofAmount cost) limit answer store)
    (fits : answer.allowed = true) :
    t.outstanding tenant answer.period + Micros.ofAmount cost ≤ limit := by
  have before := covers.outstanding_le_spent sound charged
  have room := sound.store.liveTotal_nonneg t.gate.now
    (t.gate.ledger.keyFor tenant)
  have total := charged.total
  have within := charged.allowed
  rw [fits, eq_comm, decide_eq_true_eq] at within
  rw [Micros.add_eq_of_nonneg room (Micros.ofAmount_nonneg accepted)] at total
  rw [Gate.spent] at before
  omega

/-! What every move keeps -/

/-- As long as no more than the greatest word is outstanding, the total is no
less. -/
theorem Covers.effect (covers : t.Covers tenant) (sound : t.Sound terms)
    (kept : terms.refundDenied = false) (effect : Effect terms t after)
    (bounded : ∀ period, after.outstanding tenant period ≤ Micros.greatest) :
    after.Covers tenant := by
  have later := effect.sound sound
  intro e live
  cases effect with
  | kept gate tickets =>
      have same : after.outstanding tenant e.period =
          t.outstanding tenant e.period := by
        apply sumOf_continues tickets
        intro old new continues
        simp only [Ticket.isOf, continues.hold, continues.allowed,
          continues.isRefunded]
      rw [same]
      exact covers e (gate.live?_of_some sound.gate live)
  | charged ticket answer accepted fine period allowed unrefunded tickets now
      obeys charged =>
      rcases live?_of_charged sound.gate later.gate now charged live with
        ⟨different, before⟩ | ⟨rfl, total, current⟩
      · have sum : after.outstanding tenant e.period =
            t.outstanding tenant e.period + _ := sumOf_append tickets
        have other : ticket.isOf tenant e.period = false := by
          simp [Ticket.isOf, different]
        rw [sum, Ticket.worth_of_false (by simp [other]), Int.add_zero]
        exact covers e before
      · -- A total that saturates still covers what fits a word.
        have before := covers.outstanding_le_spent sound charged
        have room := sound.store.liveTotal_nonneg t.gate.now
          (t.gate.ledger.keyFor ticket.hold.tenant)
        have sum : after.outstanding ticket.hold.tenant e.period ≤
            t.outstanding ticket.hold.tenant e.period + _ :=
          sumOf_append_le tickets accepted
        have high := bounded e.period
        rw [current] at sum high ⊢
        rw [charged.total, Micros.add_eq_of_nonneg room
          (Micros.ofAmount_nonneg accepted)] at total
        rw [Gate.spent] at before
        omega
  | refunded i j ticket refund there begun pending tickets now obeys store =>
      have valid := sound.tickets ticket (List.mem_of_getElem? there)
      have sum : after.outstanding tenant e.period =
          t.outstanding tenant e.period - _ :=
        sumOf_refunded there begun tickets fun ticket gone => by simp [gone]
      rcases live?_of_refunded sound.gate later.gate now store live with
        ⟨different, before⟩ | ⟨rfl, old, before, current, total⟩
      · have other : ticket.isOf tenant e.period = false := by
          simp [Ticket.isOf, different]
        rw [sum, Ticket.worth_of_false (by simp [other]), Int.sub_zero]
        exact covers e before
      · have covered := covers old before
        rw [current] at sum ⊢
        by_cases same : old.period = ticket.hold.period
        · have begins : ticket.refunds ≠ [] := List.ne_nil_of_mem
            (List.mem_of_getElem? begun)
          -- Denied charges are not outstanding, but they are not refunded
          -- either.
          have fit : ticket.allowed = true := by
            rcases valid.sound.mayBeRefunded begins with fit | denied
            · exact fit
            · rw [kept] at denied
              cases denied
          have standing := valid.sound.not_isRefunded begun pending
          have fits := (sound.store.live before).fits
          have counts : (ticket.isOf ticket.hold.tenant old.period &&
              ticket.allowed && !ticket.isRefunded) = true := by
            simp [Ticket.isOf, same, fit, standing]
          rw [Ticket.worth_of_true counts] at sum
          rw [if_pos same, Micros.max_sub_of_nonneg
            (Micros.ofAmount_nonneg valid.accepted) fits] at total
          omega
        · have other : ticket.isOf ticket.hold.tenant old.period = false := by
            simp [Ticket.isOf, Ne.symm same]
          rw [Ticket.worth_of_false (by simp [other])] at sum
          rw [if_neg same] at total
          omega

/-! Runs -/

/-- An admission is let in against a limit that saturates nothing, and more is
outstanding in its period then than the limit. -/
def Overspends (t : Traffic) (tenant dependency : String) (cost : Float) :
    Prop :=
  ∃ hold gate, t.gate.charge tenant dependency cost = (.held hold, gate) ∧
    let limit := Micros.ofAmount (t.gate.ledger.limitFor tenant)
    limit < Micros.greatest ∧
      limit < (t.arrive tenant dependency cost).outstanding tenant hold.period

theorem Covers.not_overspends (covers : t.Covers tenant) (sound : t.Sound terms)
    (dependency : String) (cost : Float) :
    ¬ t.Overspends tenant dependency cost := by
  rintro ⟨hold, gate, held, limited, past⟩
  rw [arrive_of_held held] at past
  obtain ⟨accepted, answer, store, charged, fits, rfl, rfl⟩ :=
    Gate.charged_of_held held
  have within := covers.outstanding_add_le sound accepted limited charged fits
  rw [outstanding, sumOf_append rfl, Ticket.worth_of_true] at past
  · rw [outstanding] at within
    simp only at past
    omega
  · simp [Ticket.isOf, Ticket.isRefunded]

def Bounded (t : Traffic) (tenant : String) : Prop :=
  ∀ period, t.outstanding tenant period ≤ Micros.greatest

theorem Covers.run (covers : t.Covers tenant) (sound : t.Sound terms)
    (kept : terms.refundDenied = false) {moves : List Move}
    (obey : ∀ m ∈ moves, m.Obeys terms)
    (bounded : ∀ earlier, earlier <+: moves → (t.run earlier).Bounded tenant) :
    (t.run moves).Covers tenant := by
  induction moves generalizing t with
  | nil => exact covers
  | cons m rest ih =>
      have effect := move_effect sound (obey m List.mem_cons_self)
      have first := bounded [m] (List.prefix_append [m] rest)
      apply ih (covers.effect sound kept effect first) (effect.sound sound)
      · intro later member
        exact obey later (List.mem_cons_of_mem _ member)
      · intro earlier before
        exact bounded (m :: earlier) ((List.prefix_cons_inj m).mpr before)

theorem Bounded.effect (bounded : t.Bounded tenant) (covers : t.Covers tenant)
    (sound : t.Sound terms)
    (narrow : ∀ limit, terms.limits limit →
      Micros.ofAmount limit < Micros.greatest)
    (effect : Effect terms t after) : after.Bounded tenant := by
  intro period
  have before := bounded period
  unfold outstanding at before ⊢
  cases effect with
  | kept gate tickets =>
      rw [sumOf_continues tickets]
      · exact before
      · intro old new continues
        simp only [Ticket.isOf, continues.hold, continues.allowed,
          continues.isRefunded]
  | charged ticket answer accepted fine paid allowed unrefunded tickets now
      obeys charged =>
      rw [sumOf_append tickets, Ticket.worth]
      split
      · rename_i counts
        simp only [Ticket.isOf, Bool.and_eq_true, decide_eq_true_eq] at counts
        obtain ⟨⟨⟨rfl, rfl⟩, fits⟩, -⟩ := counts
        have limited := narrow _
          (sound.gate.budget.limits ticket.hold.tenant)
        have within := covers.outstanding_add_le sound accepted limited charged
          (allowed.symm.trans fits)
        rw [← paid, outstanding] at within
        exact Int.le_trans within (Int.le_of_lt limited)
      · rw [Int.add_zero]
        exact before
  | refunded i j ticket refund there begun pending tickets now obeys store =>
      have valid := sound.tickets ticket (List.mem_of_getElem? there)
      rw [sumOf_refunded there begun tickets fun ticket gone => by simp [gone]]
      exact Int.le_trans
        (Int.sub_le_self _ (Ticket.worth_nonneg valid.accepted)) before

theorem Bounded.run (bounded : t.Bounded tenant) (covers : t.Covers tenant)
    (sound : t.Sound terms) (kept : terms.refundDenied = false)
    (narrow : ∀ limit, terms.limits limit →
      Micros.ofAmount limit < Micros.greatest)
    {moves : List Move} (obey : ∀ m ∈ moves, m.Obeys terms) :
    (t.run moves).Covers tenant := by
  have both : (t.run moves).Bounded tenant ∧ (t.run moves).Covers tenant := by
    apply sound.run_invariant (fun t => t.Bounded tenant ∧ t.Covers tenant)
      ⟨bounded, covers⟩ _ obey
    intro t after sound effect before
    have after := before.1.effect before.2 sound narrow effect
    exact ⟨after, before.2.effect sound kept effect after⟩
  exact both.2

theorem IsNew.bounded (new : t.IsNew) (tenant : String) : t.Bounded tenant := by
  intro period
  have nothing : t.outstanding tenant period = 0 := by
    simp [outstanding, sumOf, new.tickets, Ticket.total]
  rw [nothing]
  exact Micros.greatest_nonneg

/-! Exactly when a tenant can be let past its limit -/

def NeverOverspends (limits : Float → Prop) : Prop :=
  ∀ (keyPrefix : String) (t : Traffic) (moves : List Move), t.IsNew →
    t.gate.Obeys ⟨keyPrefix, false, true, limits⟩ →
    (∀ m ∈ moves, m.Obeys ⟨keyPrefix, false, true, limits⟩) →
    ∀ tenant dependency cost, ¬ (t.run moves).Overspends tenant dependency cost

/-- A limit that saturates may be in force, and another that does not, and that
lets something in. -/
def Mixed (limits : Float → Prop) : Prop :=
  ∃ wide narrow, limits wide ∧ limits narrow ∧
    Micros.ofAmount wide = Micros.greatest ∧
    0 ≤ Micros.ofAmount narrow ∧ Micros.ofAmount narrow < Micros.greatest

theorem Sound.limit_nonneg (sound : t.Sound terms) {dependency : String}
    {cost : Float} {hold : Hold} {gate : Gate}
    (held : t.gate.charge tenant dependency cost = (.held hold, gate)) :
    0 ≤ Micros.ofAmount (t.gate.ledger.limitFor tenant) := by
  obtain ⟨accepted, answer, store, charged, fits, rfl, rfl⟩ :=
    Gate.charged_of_held held
  have room := sound.store.liveTotal_nonneg t.gate.now
    (t.gate.ledger.keyFor tenant)
  have nonneg := Micros.ofAmount_nonneg accepted
  have top := Micros.greatest_nonneg
  have total := charged.total
  have within := charged.allowed
  rw [fits, eq_comm, decide_eq_true_eq] at within
  rw [Micros.add_eq_of_nonneg room nonneg] at total
  omega

theorem neverOverspends_of_not_mixed {limits : Float → Prop}
    (separate : ¬ Mixed limits) : NeverOverspends limits := by
  intro keyPrefix t moves new obeys obey tenant dependency cost overspends
  have sound := (new.sound obeys).run obey
  have narrow : ∀ limit, limits limit →
      Micros.ofAmount limit < Micros.greatest := by
    intro wide allowed
    have most := Micros.ofAmount_le_greatest wide
    by_contra saturates
    obtain ⟨hold, gate, held, limited, -⟩ := overspends
    exact separate ⟨wide, _, allowed, sound.gate.budget.limits tenant,
      by omega, sound.limit_nonneg held, limited⟩
  have covers := (new.bounded tenant).run (new.covers tenant) (new.sound obeys)
    rfl narrow obey
  exact covers.not_overspends sound dependency cost overspends

/-- Two charges saturate the total. The refund of the first clears it, as if the
second had never been; then the limit comes down. -/
def saturating (narrow : Float) : List Move := [
  .arrive "a" "b" 1e13, .arrive "a" "b" 1e13, .cancel 0, .refund 0 0,
  .updateBudget { defaultLimit := narrow }]

def filled (total : Int) : SpendStore where
  entries := Assoc.empty.insert "budget:a" ⟨total, Clock.secs 86400, 0⟩
  nextPeriod := 1

theorem charge_of_filled {g : Gate} {limit cost : Float} {total : Int}
    {store : SpendStore} (now : g.now = 0)
    (ledger : g.ledger = { budget := { defaultLimit := limit }, store })
    (accepted : isAmount cost)
    (reserved : store.reserve 0 "budget:a" (Micros.ofAmount cost)
      (Micros.ofAmount limit) (Clock.secs 86400) =
        (some ⟨true, total, 0⟩, filled total)) :
    g.charge "a" "b" cost =
      (.held ⟨"a", cost, 0⟩, g.withStore (filled total)) := by
  have key : g.ledger.keyFor "a" = "budget:a" := by
    rw [ledger]
    rfl
  have span : g.ledger.budget.period = Clock.secs 86400 := by
    rw [ledger]
    rfl
  have same : g.ledger.limitFor "a" = limit := by
    rw [ledger]
    rfl
  have held : g.ledger.store = store := by rw [ledger]
  have given : g.ledger.store.reserve g.now (g.ledger.keyFor "a")
      (Micros.ofAmount cost) (Micros.ofAmount (g.ledger.limitFor "a"))
      g.ledger.budget.period = (some ⟨true, total, 0⟩, filled total) := by
    rw [now, key, span, same, held, reserved]
  exact Gate.charge_of_allowed accepted (by rw [ledger]) given

theorem refund_of_filled {g : Gate} {limit cost : Float} (now : g.now = 0)
    (ledger : g.ledger =
      { budget := { defaultLimit := limit }, store := filled Micros.greatest })
    (accepted : isAmount cost) (all : Micros.ofAmount cost = Micros.greatest)
    (reason : String) :
    (g.refund ⟨"a", cost, 0⟩ reason).ledger =
      { budget := { defaultLimit := limit }, store := filled 0 } := by
  have reachable : g.ledger.outage = none := by rw [ledger]
  rw [Gate.refund_of_reachable ⟨"a", cost, 0⟩ reason accepted reachable]
  simp only [Gate.tell_ledger, Gate.withStore, now, all, ledger]
  rfl

theorem overspends_of_saturating {g : Gate} {wide narrow : Float}
    (now : g.now = 0)
    (ledger : g.ledger = { budget := { defaultLimit := wide } })
    (saturates : Micros.ofAmount wide = Micros.greatest)
    (nonneg : 0 ≤ Micros.ofAmount narrow)
    (below : Micros.ofAmount narrow < Micros.greatest) :
    ((Traffic.mk g []).run (saturating narrow)).Overspends "a" "b" 0 := by
  have trillions : Micros.ofAmount 1e13 = Micros.greatest := by decide +kernel
  have nothing : Micros.ofAmount 0 = 0 := by decide +kernel
  have accepted : isAmount 1e13 := by decide +kernel
  let ticket : Ticket := {
    hold := ⟨"a", 1e13, 0⟩, dependency := "b", allowed := true
    stage := .charged, guard := .armed }
  let full := g.withStore (filled Micros.greatest)
  have fullNow : full.now = 0 := now
  have fullLedger : full.ledger = {
      budget := { defaultLimit := wide }
      store := filled Micros.greatest } := by
    simp only [full, Gate.withStore, ledger]
  have first : (Traffic.mk g []).move (.arrive "a" "b" 1e13) =
      ⟨full, [ticket]⟩ := by
    refine arrive_of_held (charge_of_filled now ledger accepted ?_)
    rw [trillions, saturates]
    rfl
  have second : (Traffic.mk full [ticket]).move (.arrive "a" "b" 1e13) =
      ⟨full, [ticket, ticket]⟩ := by
    refine arrive_of_held (charge_of_filled fullNow fullLedger accepted ?_)
    rw [trillions, saturates]
    rfl
  have third : (Traffic.mk full [ticket, ticket]).move (.cancel 0) =
      ⟨full, [ticket.cancel, ticket]⟩ := rfl
  let cleared := full.refund ⟨"a", 1e13, 0⟩ "cancelled"
  let refunded := ticket.cancel.setRefund 0 .answered
  have fourth : (Traffic.mk full [ticket.cancel, ticket]).move (.refund 0 0) =
      ⟨cleared, [refunded, ticket]⟩ := by
    have reachable : full.ledger.outage = none := by rw [fullLedger]
    change (Traffic.mk cleared [ticket.cancel, ticket]).setTicket 0
      (ticket.cancel.setRefund 0
        (if full.ledger.outage.isNone then .answered else .lost)) = _
    rw [reachable]
    rfl
  let lowered := cleared.updateBudget { defaultLimit := narrow }
  have last : (Traffic.mk g []).run (saturating narrow) =
      ⟨lowered, [refunded, ticket]⟩ := by
    rw [saturating, run_cons, first, run_cons, second, run_cons, third,
      run_cons, fourth]
    rfl
  have clearedNow : cleared.now = 0 := by
    have reachable : full.ledger.outage = none := by rw [fullLedger]
    simp only [cleared]
    rw [Gate.refund_of_reachable ⟨"a", 1e13, 0⟩ _ accepted reachable]
    exact now
  have loweredLedger : lowered.ledger =
      { budget := { defaultLimit := narrow }, store := filled 0 } := by
    have back := refund_of_filled fullNow fullLedger accepted trillions
      "cancelled"
    change ({ cleared.ledger with
      budget := { defaultLimit := narrow } } : Ledger) = _
    rw [back]
  have held : lowered.charge "a" "b" 0 =
      (.held ⟨"a", 0, 0⟩, lowered.withStore (filled 0)) := by
    refine charge_of_filled clearedNow loweredLedger (by decide +kernel) ?_
    have within : (filled 0).reserve 0 "budget:a" 0 (Micros.ofAmount narrow)
        (Clock.secs 86400) =
          (some ⟨decide (0 ≤ Micros.ofAmount narrow), 0, 0⟩, filled 0) := rfl
    rw [nothing, within, decide_eq_true nonneg]
  have limit : lowered.ledger.limitFor "a" = narrow := by
    rw [loweredLedger]
    rfl
  rw [last]
  refine ⟨_, _, held, ?_, ?_⟩
  · rw [limit]
    exact below
  · rw [arrive_of_held held, limit]
    have gone : refunded.isRefunded = true := rfl
    rw [outstanding, sumOf]
    simp only [List.cons_append, List.nil_append, Ticket.total]
    rw [Ticket.worth_of_false (by simp [gone]), Ticket.worth_of_true rfl,
      Ticket.worth_of_true rfl, trillions, nothing]
    omega

theorem obeys_of_limit {limits : Float → Prop} {limit : Float}
    (allowed : limits limit) :
    BudgetSettings.Obeys ⟨"budget", false, true, limits⟩
      { defaultLimit := limit } where
  keyPrefix := rfl
  refundDenied := rfl
  limits _ := allowed

theorem saturating_obey {limits : Float → Prop} {narrow : Float}
    (allowed : limits narrow) :
    ∀ m ∈ saturating narrow, m.Obeys ⟨"budget", false, true, limits⟩ := by
  simp [saturating, Move.Obeys, obeys_of_limit allowed]

theorem not_neverOverspends_of_mixed {limits : Float → Prop}
    (mixed : Mixed limits) : ¬ NeverOverspends limits := by
  obtain ⟨wide, narrow, first, second, saturates, nonneg, below⟩ := mixed
  intro never
  let g : Gate := .ofSettings { budget := { defaultLimit := wide } }
  have obeys : g.Obeys ⟨"budget", false, true, limits⟩ :=
    ⟨obeys_of_limit first, fun _ => rfl⟩
  exact never "budget" ⟨g, []⟩ (saturating narrow) ⟨rfl, rfl⟩ obeys
    (saturating_obey second) "a" "b" 0
    (overspends_of_saturating rfl rfl saturates nonneg below)

/-- A tenant is let past its limit only if more than a word holds was once
outstanding; and that can come about just where a limit that saturates may be in
force and another may not. -/
theorem overspends_only_if_saturated (limits : Float → Prop) :
    (∀ keyPrefix (t : Traffic) (moves : List Move) tenant, t.IsNew →
      t.gate.Obeys ⟨keyPrefix, false, true, limits⟩ →
      (∀ m ∈ moves, m.Obeys ⟨keyPrefix, false, true, limits⟩) →
      (∀ earlier, earlier <+: moves → (t.run earlier).Bounded tenant) →
      ∀ dependency cost, ¬ (t.run moves).Overspends tenant dependency cost) ∧
    (NeverOverspends limits ↔ ¬ Mixed limits) := by
  constructor
  · intro keyPrefix t moves tenant new obeys obey bounded dependency cost
    have sound := new.sound obeys
    have covers := (new.covers tenant).run sound rfl obey bounded
    exact covers.not_overspends (sound.run obey) dependency cost
  · constructor
    · intro never mixed
      exact not_neverOverspends_of_mixed mixed never
    · exact neverOverspends_of_not_mixed

theorem Sound.bounded_of_sum (sound : t.Sound terms)
    (fits : t.sumOf (fun _ => true) ≤ Micros.greatest) (tenant : String) :
    t.Bounded tenant := by
  intro period
  refine Int.le_trans (Ticket.total_le ?_ fun _ _ => rfl) fits
  intro ticket member
  exact (sound.tickets ticket member).accepted

/-- A limit of 50, and no other may be in force. Of two charges that land on it
the first is taken back; then one of its amount is let in, and a dearer one is
not. -/
theorem overspends_only_if_saturated_refunded :
    let t : Traffic := ⟨.ofSettings { budget := { defaultLimit := 50 } }, []⟩
    let terms : Terms := ⟨"budget", false, true, (· = 50)⟩
    let moves : List Move := [
      .arrive "a" "b" 30, .arrive "a" "b" 20, .cancel 0, .refund 0 0]
    let refunded := t.run moves
    t.IsNew ∧ t.gate.Obeys terms ∧ (∀ m ∈ moves, m.Obeys terms) ∧
      (∀ earlier, earlier <+: moves → (t.run earlier).Bounded "a") ∧
      (t.run (moves.take 2)).outstanding "a" 0 = 50000000 ∧
      refunded.outstanding "a" 0 = 20000000 ∧
      (refunded.arrive "a" "b" 30).outstanding "a" 0 = 50000000 ∧
      (refunded.arrive "a" "b" 30.5).outstanding "a" 0 = 20000000 ∧
      (∀ dependency cost, ¬ refunded.Overspends "a" dependency cost) ∧
      NeverOverspends (· = 50) := by
  intro t terms moves refunded
  obtain ⟨never, exactly⟩ := overspends_only_if_saturated (· = 50)
  have new : t.IsNew := ⟨rfl, rfl⟩
  have obeys : t.gate.Obeys terms := ⟨obeys_of_limit rfl, fun _ => rfl⟩
  have obey : ∀ m ∈ moves, m.Obeys terms := by simp [moves, Move.Obeys]
  have small : (moves.inits.all fun earlier =>
      (t.run earlier).sumOf (fun _ => true) ≤ Micros.greatest) = true := by
    decide +kernel
  have bounded (earlier : List Move) (before : earlier <+: moves) :
      (t.run earlier).Bounded "a" := by
    have sound := (new.sound obeys).run fun m member =>
      obey m (before.subset member)
    have fits := List.all_eq_true.mp small earlier
      (List.mem_inits earlier moves |>.mpr before)
    exact sound.bounded_of_sum (of_decide_eq_true fits) "a"
  have plain : ¬ Mixed (· = 50) := by
    rintro ⟨wide, narrow, rfl, rfl, saturates, -, below⟩
    omega
  exact ⟨new, obeys, obey, bounded, by decide +kernel, by decide +kernel,
    by decide +kernel, by decide +kernel,
    never "budget" t moves "a" new obeys obey bounded, exactly.mpr plain⟩

/-- A limit of 1e300 comes down to 50. -/
theorem overspends_after_limit_comes_down :
    let t : Traffic := ⟨.ofSettings { budget := { defaultLimit := 1e300 } }, []⟩
    let terms : Terms := ⟨"budget", false, true, fun _ => True⟩
    t.IsNew ∧ t.gate.Obeys terms ∧ (∀ m ∈ saturating 50, m.Obeys terms) ∧
      (t.run (saturating 50)).Overspends "a" "b" 0 :=
  ⟨⟨rfl, rfl⟩, ⟨obeys_of_limit trivial, fun _ => rfl⟩, saturating_obey trivial,
    overspends_of_saturating rfl rfl (by decide +kernel) (by decide +kernel)
      (by decide +kernel)⟩

end Tollgate.Traffic
