import Tollgate.Proofs.Admin.Serving
import Tollgate.Proofs.Session.Resembling

/-!
Reading a session. Reports drop stale failures and ended entries on their way
and may write to the log, but whatever is asked of the session besides, it
answers as if nobody had read anything.
-/

namespace Tollgate

namespace Gate.Resembles

theorem budgetStatus_self (g : Gate) (tenant : String) :
    (g.budgetStatus tenant).2.Resembles g := by
  have ledgers := Ledger.Resembles.current_self g.ledger g.now tenant
  unfold Gate.budgetStatus Ledger.status
  generalize g.ledger.current g.now tenant = read at ledgers ⊢
  obtain ⟨answer, ledger⟩ := read
  have kept : Resembles { g with ledger } g := { refl g with ledgers }
  cases answer with
  | ok total =>
      dsimp only
      rw [tell_nil]
      exact kept
  | error error => exact (log _ _).trans kept

theorem spendSnapshot_self (g : Gate) (tenant : String) :
    (g.spendSnapshot tenant).2.Resembles g :=
  { refl g with
    ledgers := by
      change (g.ledger.snapshot g.now tenant).2.Resembles g.now g.ledger
      rw [Ledger.snapshot_ledger]
      exact .current_self _ _ _ }

theorem breakerSnapshots_self (g : Gate) :
    g.breakerSnapshots.2.Resembles g :=
  { refl g with
    registries := g.registry.prune_prune_of_le (Nat.le_refl g.now) }

theorem askBreaker_self {g : Gate} {dependency : String} {b : Breaker}
    (made : g.registry.get? dependency = some b) {op : BreakerOp}
    (report : op.isReport) : (g.askBreaker dependency op).2.Resembles g := by
  obtain ⟨signals, registries⟩ :=
    Registry.ask_of_isReport made report g.now
  rw [askBreaker_eq]
  dsimp only
  rw [signals, tell_nil]
  exact { refl g with registries }

theorem serve_self (g : Gate) {request : Request}
    (read : request.method ≠ "POST") : (g.serve request).2.Resembles g := by
  have handles := Handles.serve g request
  generalize (g.serve request).2 = after at handles ⊢
  cases handles with
  | same => exact refl g
  | unhealthy error => exact log g _
  | reports => exact breakerSnapshots_self g
  | snapshot tenant => exact spendSnapshot_self g tenant
  | resets dependency post => exact absurd post read
  | opens dependency post => exact absurd post read

end Gate.Resembles

theorem Gate.breaker_of_some {g : Gate} {dependency : String} {b : Breaker}
    (made : g.registry.get? dependency = some b) :
    g.breaker dependency = (b, g) := by
  unfold breaker
  rw [Registry.getOrCreate_of_some made]
  exact congrArg (Prod.mk b) g.tell_nil

def BreakerAction.isReport : BreakerAction → Bool
  | .ask op => op.isReport
  | .config => true
  | _ => false

namespace Session

/-- The step only reads. A breaker is there to be read once it has been made. -/
def reads (s : Session) : Step → Bool
  | .store (.current _) | .storeSize => true
  | .budgetStatus _ | .spendSnapshot _ | .limitFor _ | .keyFor _ => true
  | .health | .readMetrics => true
  | .breaker dependency action =>
      action.isReport && (s.gate.registry.get? dependency).isSome
  | .breakerSnapshots | .breakerState _ | .breakerCount => true
  | .breakerConfig _ => true
  | .providerFor _ | .estimate _ _ _ | .firstLimitFor _ => true
  | .request request => request.method != "POST"
  | _ => false

variable {s t : Session} {step : Step} {now later : Nat}

namespace Resembles

theorem act_self {dependency : String} {b : Breaker}
    (made : s.gate.registry.get? dependency = some b) {action : BreakerAction}
    (report : action.isReport) : (s.act dependency action).2.Resembles s := by
  cases action with
  | ask op => exact (refl s).withGate (.askBreaker_self made report)
  | config =>
      unfold Session.act
      rw [Gate.breaker_of_some made]
      exact refl s
  | _ => cases report

theorem breaker_self {dependency : String} {b : Breaker}
    (made : s.gate.registry.get? dependency = some b) {action : BreakerAction}
    (report : action.isReport) :
    (s.breaker dependency action).2.Resembles s := by
  have acted := act_self made report
  have gates := (acted.gates.breaker dependency).2
  unfold Session.breaker
  rw [Gate.breaker_of_some made] at gates ⊢
  exact { acted with gates }

/-- What a reading leaves resembles what it found. -/
theorem step_self (reads : s.reads step) : (s.step step).2.Resembles s := by
  cases step with
  | store op =>
      cases op with
      | current key =>
          have stores := SpendStore.Resembles.current_self s.gate.ledger.store
            s.gate.now key
          change (s.askStore (.current key)).2.Resembles s
          unfold Session.askStore
          split
          · exact refl s
          · exact (refl s).withGate { Gate.Resembles.refl s.gate with
              ledgers := (Ledger.Resembles.refl _ _).withStore stores }
      | _ => cases reads
  | budgetStatus tenant => exact (refl s).withGate (.budgetStatus_self _ tenant)
  | spendSnapshot tenant =>
      change (s.spendSnapshot tenant).2.Resembles s
      rw [spendSnapshot_eq]
      exact (refl s).withGate (.spendSnapshot_self s.gate tenant)
  | health =>
      rw [health_eq]
      exact refl s
  | breaker dependency action =>
      obtain ⟨report, there⟩ := Bool.and_eq_true_iff.mp reads
      obtain ⟨b, made⟩ := Option.isSome_iff_exists.mp there
      exact breaker_self made report
  | breakerSnapshots => exact (refl s).withGate (.breakerSnapshots_self _)
  | request request =>
      exact (refl s).withGate (.serve_self _ (bne_iff_ne.mp reads))
  | storeSize | limitFor | keyFor | readMetrics | breakerState | breakerCount
  | breakerConfig | providerFor | estimate | firstLimitFor => exact refl s
  | _ => cases reads

end Resembles

/-! Steps at their instants -/

/-- Lets time pass until an instant, unless it has passed already. -/
def waitTill (s : Session) (instant : Nat) : Session :=
  { s with gate := s.gate.advance (instant - s.gate.now) }

theorem waitTill_waitTill (s : Session) (inOrder : now ≤ later) :
    (s.waitTill now).waitTill later = s.waitTill later := by
  have instants : s.gate.now + (now - s.gate.now) +
      (later - (s.gate.now + (now - s.gate.now))) =
        s.gate.now + (later - s.gate.now) := by omega
  exact congrArg
    (fun now => ({ s with gate := { s.gate with now } } : Session)) instants

theorem Resembles.waitTill (same : s.Resembles t) (instant : Nat) :
    (s.waitTill instant).Resembles (t.waitTill instant) := by
  have gates := same.gates.advance (instant - s.gate.now)
  unfold Session.waitTill
  rw [← same.gates.now]
  exact same.withGate gates

/-- A step that belongs to the program, or one inserted by somebody else. -/
structure Turn where
  step : Step
  inserted : Bool := false

def runAt (s : Session) : List (Nat × Turn) → List (Turn × Answer)
  | [] => []
  | (now, turn) :: rest =>
      let (answer, after) := (s.waitTill now).step turn.step
      (turn, answer) :: after.runAt rest

def onlyReads (s : Session) : List (Nat × Turn) → Bool
  | [] => true
  | (now, turn) :: rest =>
      (!turn.inserted || (s.waitTill now).reads turn.step) &&
        ((s.waitTill now).step turn.step).2.onlyReads rest

/-- What the answers to the program's own steps say. -/
def ownAnswers (answered : List (Turn × Answer)) : List Answer :=
  (answered.filter (!·.1.inserted)).map fun (turn, answer) =>
    turn.step.told answer

theorem ownAnswers_cons (turn : Turn) (answer : Answer)
    (rest : List (Turn × Answer)) :
    ownAnswers ((turn, answer) :: rest) =
      if turn.inserted then ownAnswers rest
      else turn.step.told answer :: ownAnswers rest := by
  unfold ownAnswers
  cases inserted : turn.inserted <;> simp [inserted]

/-- From an instant on, the sessions resemble each other. -/
def ResembleFrom (instant : Nat) (s t : Session) : Prop :=
  ∀ later, instant ≤ later → (s.waitTill later).Resembles (t.waitTill later)

theorem Resembles.from (same : s.Resembles t) (instant : Nat) :
    ResembleFrom instant s t := fun later _ => same.waitTill later

theorem ResembleFrom.read (same : ResembleFrom now s t)
    (reads : (s.waitTill now).reads step) :
    ResembleFrom now ((s.waitTill now).step step).2 t := by
  intro later passed
  have kept := (Resembles.step_self reads).waitTill later
  rw [s.waitTill_waitTill passed] at kept
  exact kept.trans (same later passed)

theorem ownAnswers_runAt (same : ResembleFrom now s t)
    (lasting : 0 < s.gate.ledger.budget.periodSecs)
    {turns : List (Nat × Turn)} (inOrder : Clock.InOrder now turns)
    (own : ∀ turn ∈ turns, turn.2.inserted = false → turn.2.step.IsLasting)
    (reads : s.onlyReads turns) :
    ownAnswers (s.runAt turns) =
      ownAnswers (t.runAt (turns.filter (!·.2.inserted))) := by
  -- Only the one session waits for an inserted step, so in between they need
  -- not resemble each other: they do once both have waited for what comes next.
  induction turns generalizing s t now with
  | nil => rfl
  | cons first rest ih =>
      obtain ⟨instant, turn⟩ := first
      obtain ⟨passed, restInOrder⟩ := inOrder
      obtain ⟨readsFirst, readsRest⟩ := Bool.and_eq_true_iff.mp reads
      have ownRest := fun turn member =>
        own turn (List.mem_cons_of_mem _ member)
      have here := same instant passed
      have onward : ResembleFrom instant s t := fun later after =>
        same later (Nat.le_trans passed after)
      rw [runAt, ownAnswers_cons, List.filter_cons]
      cases inserted : turn.inserted with
      | true =>
          rw [inserted] at readsFirst
          have kept := (Resembles.step_self readsFirst).gates.ledgers.budget
          simp only [Bool.not_true, Bool.false_eq_true, if_true, if_false]
          refine ih (onward.read readsFirst) ?_ restInOrder ownRest readsRest
          rw [kept]
          exact lasting
      | false =>
          have lasts := own _ List.mem_cons_self inserted
          obtain ⟨answers, after⟩ := here.step lasting lasts
          simp only [Bool.not_false, Bool.false_eq_true, if_true, if_false]
          rw [runAt, ownAnswers_cons, inserted, if_neg Bool.false_ne_true,
            answers]
          have still := step_lasting (s := s.waitTill instant) lasting lasts
          exact congrArg _
            (ih (after.from instant) still restInOrder ownRest readsRest)

/-- Whatever is read in between, the own steps of the program are answered the
same, but for the log and the number of keys in the store. -/
theorem reads_change_no_answer {settings : Settings}
    (lasting : 0 < settings.budget.periodSecs) {turns : List (Nat × Turn)}
    (inOrder : Clock.InOrder 0 turns)
    (own : ∀ turn ∈ turns, turn.2.inserted = false → turn.2.step.IsLasting)
    (reads : (ofSettings settings).onlyReads turns) :
    ownAnswers ((ofSettings settings).runAt turns) =
      ownAnswers
        ((ofSettings settings).runAt (turns.filter (!·.2.inserted))) :=
  ownAnswers_runAt ((Resembles.refl _).from 0) lasting inOrder own reads

/-- The period of a charge has ended and failures have gone stale when they are
read, and the store is read out of reach. The next period is the second all the
same. -/
theorem reads_change_no_answer_ended :
    let turns : List (Nat × Turn) := [
      (0, { step := .reserve "acme" 40 }),
      (1, { step := .breaker "db" (.failures 2) }),
      (Clock.secs 90000,
        { step := .store (.current "budget:acme"), inserted := true }),
      (Clock.secs 90000,
        { step := .breaker "db" (.ask .failureCount), inserted := true }),
      (Clock.secs 90001, { step := .setOutage (some (.unavailable "down")) }),
      (Clock.secs 90002, { step := .budgetStatus "acme", inserted := true }),
      (Clock.secs 90003, { step := .setOutage none }),
      (Clock.secs 90004, { step := .reserve "acme" 5 })]
    0 < ({} : Settings).budget.periodSecs ∧ Clock.InOrder 0 turns ∧
      (∀ turn ∈ turns, turn.2.inserted = false → turn.2.step.IsLasting) ∧
      (ofSettings {}).onlyReads turns ∧
      ownAnswers ((ofSettings {}).runAt turns) =
        ownAnswers
          ((ofSettings {}).runAt (turns.filter (!·.2.inserted))) := by
  intro turns
  have lasting : 0 < ({} : Settings).budget.periodSecs := by decide
  have inOrder : Clock.InOrder 0 turns := by decide
  have own : ∀ turn ∈ turns,
      turn.2.inserted = false → turn.2.step.IsLasting := by
    simp [turns, Step.IsLasting]
  have reads : (ofSettings {}).onlyReads turns := by decide +kernel
  exact ⟨lasting, inOrder, own, reads,
    reads_change_no_answer lasting inOrder own reads⟩

end Session

end Tollgate
