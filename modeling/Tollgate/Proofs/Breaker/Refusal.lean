import Tollgate.Proofs.Breaker.Opened

/-!
Refusals. What a refused attempt is told, what a report shows and when the next
attempt is granted are worked out apart from each other, all three from the last
failure. They agree at every instant, to the nanosecond, where an operation reads
the clock at the instant at which it gets hold of the breaker (`Clock.InOrder`).
-/

namespace Tollgate

def BreakerOp.sparesFailure : BreakerOp → Bool
  | .recordFailure | .reset | .forceOpen => false
  | .acquire | .recordSuccess | .failureCount | .snapshot => true

namespace Breaker

variable {b : Breaker} {now later failure rest : Nat} {op : BreakerOp}
  {ops : List (Nat × BreakerOp)}

theorem acquire_refusal (b : Breaker) (now : Nat) :
    (b.acquire now).1 =
      (b.retryAfter? now).map fun rest => ⟨b.dependency, rest⟩ := by
  cases wait : b.retryAfter? now with
  | some rest => rw [acquire_of_refused wait]; rfl
  | none => rw [acquire_of_granted wait]; rfl

/-! The last failure -/

/-- The last failure does not lie ahead, and there is one unless the breaker is
closed. -/
structure Dated (b : Breaker) (now : Nat) : Prop where
  past : ∀ failure, b.lastFailure = some failure → failure ≤ now
  known : b.state ≠ .closed → ∃ failure, b.lastFailure = some failure

theorem dated_fresh (dependency : String) (config : BreakerConfig)
    (now : Nat) : Dated { dependency, config } now :=
  ⟨nofun, fun other => absurd rfl other⟩

namespace Dated

theorem mono (dated : b.Dated now) (passed : now ≤ later) : b.Dated later where
  past failure last := Nat.le_trans (dated.past failure last) passed
  known := dated.known

theorem perform (dated : b.Dated now) (op : BreakerOp) :
    (b.perform now op).2.breaker.Dated now := by
  have change := b.perform_change now op
  generalize after : (b.perform now op).2.breaker = next at change ⊢
  generalize state : next.state = entered at change
  generalize failure : next.lastFailure = last at change
  constructor
  · intro instant found
    rw [failure] at found
    cases change with
    | failed | forced => cases found; exact Nat.le_refl _
    | reset => cases found
    | _ => exact dated.past instant found
  · intro other
    rw [state] at other
    rw [failure]
    cases change with
    | kept => exact dated.known other
    | trial opened granted => exact dated.known (by rw [opened]; exact nofun)
    | recovered | reset => exact absurd rfl other
    | failed | forced => exact ⟨now, rfl⟩

theorem run (dated : b.Dated now) (passed : now ≤ later)
    (inOrder : Clock.InOrder now ops)
    (before : ∀ event ∈ ops, event.1 ≤ later) : (b.run ops).2.Dated later := by
  induction ops generalizing b now with
  | nil => exact dated.mono passed
  | cons event rest ih =>
      obtain ⟨since, inOrder⟩ := inOrder
      exact ih ((dated.mono since).perform event.2)
        (before event List.mem_cons_self) inOrder
        fun other member => before other (List.mem_cons_of_mem _ member)

/-- A refusal holds until the reset timeout has passed since the last failure,
and no term of that runs out of range. -/
theorem retryAfter?_eq_some (dated : b.Dated now) :
    b.retryAfter? now = some rest ↔
      ∃ failure ≤ now, b.OpenSince failure ∧
        failure + b.config.resetTimeout = now + rest := by
  constructor
  · intro wait
    unfold retryAfter? at wait
    split at wait
    · rename_i failure opened last
      have past := dated.past failure last
      split at wait
      · cases wait
        exact ⟨failure, past, ⟨opened, last⟩, by omega⟩
      · contradiction
    · contradiction
  · rintro ⟨failure, past, ⟨opened, last⟩, edge⟩
    simp only [retryAfter?, opened, last]
    rw [if_pos (by omega)]
    congr 1
    omega

end Dated

/-! Until the next failure -/

/-- The breaker is open since the failure still, or its reset timeout was over
when it stopped being so. -/
def Waits (b : Breaker) (failure now : Nat) : Prop :=
  b.OpenSince failure ∨
    b.state ≠ .opened ∧ failure + b.config.resetTimeout < now

namespace Waits

theorem perform (waits : b.Waits failure now) (passed : now ≤ later)
    (spares : op.sparesFailure) :
    (b.perform later op).2.breaker.Waits failure later := by
  have change := b.perform_change later op
  have config := b.perform_config later op
  generalize after : (b.perform later op).2.breaker = next at change config ⊢
  unfold Waits
  rw [config]
  generalize state : next.state = entered at change ⊢
  generalize found : next.lastFailure = last at change
  rcases waits with since | ⟨other, past⟩
  · cases change with
    | kept => exact .inl ⟨state.trans since.opened, found.trans since.last⟩
    | trial opened granted =>
        exact .inr ⟨nofun, (since.grants_iff later).mp granted⟩
    | recovered halfOpen => cases halfOpen.symm.trans since.opened
    | failed | reset | forced => cases spares
  · have past := Nat.lt_of_lt_of_le past passed
    cases change with
    | kept => exact .inr ⟨other, past⟩
    | trial | recovered => exact .inr ⟨nofun, past⟩
    | failed | reset | forced => cases spares

theorem run (waits : b.Waits failure now) (passed : now ≤ later)
    (inOrder : Clock.InOrder now ops)
    (spared : ∀ event ∈ ops, event.1 ≤ later ∧ event.2.sparesFailure) :
    (b.run ops).2.Waits failure later := by
  induction ops generalizing b now with
  | nil => exact waits.imp id (And.imp id (Nat.lt_of_lt_of_le · passed))
  | cons event rest ih =>
      obtain ⟨since, inOrder⟩ := inOrder
      obtain ⟨before, spares⟩ := spared event List.mem_cons_self
      exact ih (waits.perform since spares) before inOrder
        fun other member => spared other (List.mem_cons_of_mem _ member)

theorem retryAfter? (waits : b.Waits failure now) (past : failure ≤ now) :
    b.retryAfter? now =
      if now ≤ failure + b.config.resetTimeout then
        some (failure + b.config.resetTimeout - now)
      else none := by
  rcases waits with ⟨opened, last⟩ | ⟨other, ended⟩
  · simp only [Breaker.retryAfter?, opened, last]
    split
    · rw [if_pos (by omega)]
      congr 1
      omega
    · rw [if_neg (by omega)]
  · rw [if_neg (Nat.not_le_of_lt ended), retryAfter?_eq_none_iff]
    simp [grants, other]

end Waits

/-- At every instant of a breaker that has been asked whatever and whenever: an
open breaker knows how long ago its last failure was; a report shows a remaining
time exactly if an attempt would be refused, and then that of the refusal in
whole milliseconds, which fit a word. The remaining time is what is left of the
reset timeout since the last failure, exactly. And until there is a failure, a
reset or a forced opening, attempts are refused up to the instant it names and
none after, each told what is left then, whatever else is asked meanwhile. -/
theorem refusals_agree (thresholds : BreakerThresholds)
    (word : thresholds.resetTimeoutMs < Nat.pow 2 64) (dependency : String)
    {ops : List (Nat × BreakerOp)} {now : Nat}
    (inOrder : Clock.InOrder 0 ops) (before : ∀ event ∈ ops, event.1 ≤ now) :
    let b : Breaker := (run { dependency, config := thresholds.config } ops).2
    let refusal := (b.acquire now).1
    let asked := (b.acquire now).2.breaker
    (b.state = .opened → ∃ elapsed, b.elapsed? now = some elapsed) ∧
      (b.snapshot now).1.retryAfterMs =
        refusal.map (Clock.wholeMillis ·.retryAfter) ∧
      ∀ circuit, refusal = some circuit →
        circuit.dependency = dependency ∧
          circuit.retryAfter ≤ Clock.millis thresholds.resetTimeoutMs ∧
          Clock.wholeMillis circuit.retryAfter < Nat.pow 2 64 ∧
          (∃ failure ≤ now, b.lastFailure = some failure ∧
            failure + Clock.millis thresholds.resetTimeoutMs =
              now + circuit.retryAfter) ∧
          ∀ later again, now ≤ again → Clock.InOrder now later →
            (∀ event ∈ later, event.1 ≤ again ∧ event.2.sparesFailure) →
            ((asked.run later).2.acquire again).1 =
              if again ≤ now + circuit.retryAfter then
                some ⟨dependency, circuit.retryAfter - (again - now)⟩
              else none := by
  intro b refusal asked
  have exact : refusal = _ := b.acquire_refusal now
  have dated : b.Dated now :=
    (dated_fresh dependency thresholds.config 0).run (Nat.zero_le now) inOrder
      before
  have config : b.config = thresholds.config := run_config _ ops
  have name : b.dependency = dependency := run_dependency _ ops
  refine ⟨?_, ?_, ?_⟩
  · intro opened
    obtain ⟨failure, last⟩ := dated.known (by rw [opened]; exact nofun)
    exact ⟨now - failure, by rw [elapsed?, last]; rfl⟩
  · rw [exact, Option.map_map]
    rfl
  · intro circuit refused
    rw [exact, Option.map_eq_some_iff] at refused
    obtain ⟨rest, wait, rfl⟩ := refused
    obtain ⟨failure, past, since, edge⟩ := dated.retryAfter?_eq_some.mp wait
    have reset : b.config.resetTimeout =
        Clock.millis thresholds.resetTimeoutMs := by rw [config]; rfl
    have short : rest ≤ Clock.millis thresholds.resetTimeoutMs := by omega
    refine ⟨name, short, ?_, ⟨failure, past, since.last, reset ▸ edge⟩, ?_⟩
    · have most : rest / 1000000 ≤ thresholds.resetTimeoutMs :=
        Nat.div_le_of_le_mul (Nat.mul_comm _ _ ▸ short)
      exact Nat.lt_of_le_of_lt most word
    · intro later again passed inOrder spared
      have waits : asked.Waits failure now :=
        Waits.perform (.inl since) (Nat.le_refl now)
          (rfl : BreakerOp.acquire.sparesFailure)
      have last := waits.run passed inOrder spared
      have same : (asked.run later).2.config = b.config :=
        (run_config asked later).trans (b.perform_config now .acquire)
      have still : (asked.run later).2.dependency = dependency :=
        ((run_dependency asked later).trans
          (b.perform_dependency now .acquire)).trans name
      rw [acquire_refusal, last.retryAfter? (Nat.le_trans past passed), same,
        still, edge]
      dsimp only
      split
      · rw [Option.map_some]
        congr 2
        omega
      · rfl

/-- One failure trips the breaker, another comes while it is open. Refused with
half of its time left, an attempt is refused at the last instant of it, in spite
of a success and a look, and granted a nanosecond later. -/
theorem refusals_agree_to_the_nanosecond :
    let thresholds : BreakerThresholds := ⟨1, 100, 60000⟩
    let ops : List (Nat × BreakerOp) := [
      (0, .recordFailure), (20000000, .recordFailure), (30000000, .snapshot)]
    let b : Breaker :=
      (run { dependency := "a", config := thresholds.config } ops).2
    let asked := (b.acquire 70000000).2.breaker
    let later : List (Nat × BreakerOp) := [
      (80000000, .recordSuccess), (90000000, .acquire),
      (120000000, .snapshot)]
    Clock.InOrder 0 ops ∧ (b.acquire 70000000).1 = some ⟨"a", 50000000⟩ ∧
      (b.snapshot 70000000).1.retryAfterMs = some 50 ∧
      ((asked.run later).2.acquire 120000000).1 = some ⟨"a", 0⟩ ∧
      ((asked.run later).2.acquire 120000001).1 = none := by
  intro thresholds ops b asked later
  have inOrder : Clock.InOrder 0 ops := by decide
  have before : ∀ event ∈ ops, event.1 ≤ 70000000 := by decide
  have refused : (b.acquire 70000000).1 = some ⟨"a", 50000000⟩ := by
    decide +kernel
  obtain ⟨-, shown, agrees⟩ :=
    refusals_agree thresholds (by decide) "a" inOrder before
  obtain ⟨-, -, -, -, answers⟩ := agrees _ refused
  have laterInOrder : Clock.InOrder 70000000 later := by decide
  have lasts := answers later 120000000 (by decide) laterInOrder
    (by decide +kernel)
  have ends := answers later 120000001 (by decide) laterInOrder
    (by decide +kernel)
  simp only [Nat.reduceAdd, Nat.reduceSub, Nat.reduceLeDiff, if_true] at lasts
  simp only [Nat.reduceAdd, Nat.reduceLeDiff, if_false] at ends
  refine ⟨inOrder, refused, shown.trans (by rw [refused]; rfl), ?_, ?_⟩
  · dsimp only [asked, b]
    exact lasts
  · dsimp only [asked, b]
    exact ends

end Breaker

end Tollgate
