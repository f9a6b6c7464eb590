import Mathlib.Data.List.DropRight
import Tollgate.Proofs.Breaker.Registry
import Tollgate.Proofs.Breaker.Window

/-!
Failures that have gone stale make no difference. Whether they are still in the
history of a breaker or have been dropped by a report, each operation gives the
same answer, tells the same, and leaves histories that differ in stale failures
alone.
-/

namespace Tollgate

/-- It asks for a report, and has nothing to do with calls. -/
def BreakerOp.isReport : BreakerOp → Bool
  | failureCount | snapshot => true
  | _ => false

namespace Breaker

variable {b c : Breaker} {now : Nat}

theorem noting_prune (b : Breaker) (now : Nat) :
    (b.prune now).noting now = b.noting now := by
  have failures : (b.failures.dropWhile (b.isStale now) ++ [now]).dropWhile
      (b.isStale now) = (b.failures ++ [now]).dropWhile (b.isStale now) := by
    rw [List.dropWhile_append, List.dropWhile_idempotent,
      ← List.dropWhile_append]
  exact congrArg
    ({ b with failures := ·, lastFailure := some now } : _ → Breaker) failures

theorem enter_prune (b : Breaker) (now : Nat) (next : CircuitState) :
    (b.prune now).enter next =
      { b.enter next with breaker := (b.enter next).breaker.prune now } := by
  unfold enter
  rw [prune_state]
  split
  · rfl
  · rfl

theorem acquire_prune (b : Breaker) (now : Nat) :
    (b.prune now).acquire now = b.acquire now := by
  unfold acquire
  rw [prune_prune]

theorem recordFailure_prune (b : Breaker) (now : Nat) :
    (b.prune now).recordFailure now = b.recordFailure now := by
  cases state : b.state with
  | opened =>
      rw [recordFailure_of_opened state,
        recordFailure_of_opened (b := b.prune now) state, noting_prune]
  | closed =>
      rw [recordFailure_of_closed state,
        recordFailure_of_closed (b := b.prune now) state, noting_prune]
      rfl
  | halfOpen =>
      rw [recordFailure_of_halfOpen state,
        recordFailure_of_halfOpen (b := b.prune now) state, noting_prune]
      rfl

theorem recordSuccess_prune (b : Breaker) (now : Nat) :
    (b.prune now).recordSuccess.signals = b.recordSuccess.signals ∧
      (b.prune now).recordSuccess.breaker.prune now =
        b.recordSuccess.breaker.prune now := by
  unfold recordSuccess
  rw [prune_state]
  split
  · exact ⟨rfl, rfl⟩
  · exact ⟨rfl, b.prune_prune now⟩

theorem forceOpen_prune (b : Breaker) (now : Nat) :
    (b.prune now).forceOpen now =
      { b.forceOpen now with
        breaker := (b.forceOpen now).breaker.prune now } :=
  enter_prune { b with lastFailure := some now } now .opened

theorem failureCount_prune (b : Breaker) (now : Nat) :
    (b.prune now).failureCount now = b.failureCount now := by
  unfold failureCount
  rw [prune_prune]

theorem snapshot_prune (b : Breaker) (now : Nat) :
    (b.prune now).snapshot now = b.snapshot now := by
  unfold snapshot
  rw [prune_prune]

theorem perform_prune (b : Breaker) (now : Nat) (op : BreakerOp) :
    ((b.prune now).perform now op).1 = (b.perform now op).1 ∧
      ((b.prune now).perform now op).2.signals =
        (b.perform now op).2.signals ∧
      ((b.prune now).perform now op).2.breaker.prune now =
        (b.perform now op).2.breaker.prune now := by
  cases op with
  | acquire =>
      unfold perform
      rw [acquire_prune]
      exact ⟨rfl, rfl, rfl⟩
  | recordSuccess => exact ⟨rfl, b.recordSuccess_prune now⟩
  | recordFailure =>
      unfold perform
      rw [recordFailure_prune]
      exact ⟨rfl, rfl, rfl⟩
  | reset => exact ⟨rfl, rfl, rfl⟩
  | forceOpen =>
      unfold perform
      rw [forceOpen_prune]
      exact ⟨rfl, rfl, prune_prune _ now⟩
  | failureCount =>
      unfold perform
      rw [failureCount_prune]
      exact ⟨rfl, rfl, rfl⟩
  | snapshot =>
      unfold perform
      rw [snapshot_prune]
      exact ⟨rfl, rfl, rfl⟩

theorem perform_of_prune_eq (same : b.prune now = c.prune now)
    (op : BreakerOp) :
    (b.perform now op).1 = (c.perform now op).1 ∧
      (b.perform now op).2.signals = (c.perform now op).2.signals ∧
      (b.perform now op).2.breaker.prune now =
        (c.perform now op).2.breaker.prune now := by
  obtain ⟨reply, signals, after⟩ := b.perform_prune now op
  obtain ⟨reply', signals', after'⟩ := c.perform_prune now op
  rw [same] at reply signals after
  exact ⟨reply.symm.trans reply', signals.symm.trans signals',
    after.symm.trans after'⟩

end Breaker

namespace Registry

variable {r t : Registry} {now later : Nat} {dependency : String}

def prune (r : Registry) (now : Nat) : Registry :=
  { r with breakers := r.breakers.map (·.prune now) }

theorem prune_prune_of_le (r : Registry) (passed : now ≤ later) :
    (r.prune now).prune later = r.prune later := by
  have each : (Breaker.prune · later) ∘ (Breaker.prune · now) =
      (Breaker.prune · later) :=
    funext fun b => b.prune_prune_of_le passed
  simp only [prune, Assoc.map_map, each]

theorem prune_eq_later (same : r.prune now = t.prune now)
    (passed : now ≤ later) : r.prune later = t.prune later := by
  rw [← r.prune_prune_of_le passed, same, t.prune_prune_of_le passed]

theorem get?_prune (r : Registry) (now : Nat) (dependency : String) :
    (r.prune now).get? dependency = (r.get? dependency).map (·.prune now) :=
  Assoc.get?_map _ _ _

theorem put_prune (r : Registry) (now : Nat) (dependency : String)
    (b : Breaker) :
    (r.put dependency b).prune now =
      (r.prune now).put dependency (b.prune now) :=
  congrArg ({ r with breakers := · }) (Assoc.map_insert _ _ _ _)

theorem getOrCreate_prune (r : Registry) (now : Nat) (dependency : String) :
    (r.prune now).getOrCreate dependency =
      ((r.getOrCreate dependency).1.prune now,
        (r.getOrCreate dependency).2.1,
        (r.getOrCreate dependency).2.2.prune now) := by
  have kept := r.get?_prune now dependency
  cases made : r.get? dependency with
  | none =>
      rw [made, Option.map_none] at kept
      rw [getOrCreate_of_none made, getOrCreate_of_none kept, put_prune]
      rfl
  | some b =>
      rw [made, Option.map_some] at kept
      rw [getOrCreate_of_some made, getOrCreate_of_some kept]

/-! What registries have in common that differ in stale failures alone -/

theorem snapshots_of_prune_eq (same : r.prune now = t.prune now) :
    r.snapshots now = t.snapshots now := by
  have each (r : Registry) : r.snapshots now =
      (reportOf (r.prune now).breakers.values now, r.prune now) := by
    refine Prod.ext (congrArg (sortBy _) ?_) rfl
    rw [prune, Assoc.values_map, List.map_map]
    refine List.map_congr_left fun b _ => ?_
    exact congrArg Prod.fst (b.snapshot_prune now).symm
  rw [each, each, same]

theorem get?_of_prune_eq (same : r.prune now = t.prune now)
    (dependency : String) :
    (r.get? dependency).map (·.prune now) =
      (t.get? dependency).map (·.prune now) := by
  rw [← get?_prune, same, get?_prune]

theorem getOrCreate_of_prune_eq (same : r.prune now = t.prune now)
    (dependency : String) :
    (r.getOrCreate dependency).1.prune now =
        (t.getOrCreate dependency).1.prune now ∧
      (r.getOrCreate dependency).2.1 = (t.getOrCreate dependency).2.1 ∧
      (r.getOrCreate dependency).2.2.prune now =
        (t.getOrCreate dependency).2.2.prune now := by
  have both := r.getOrCreate_prune now dependency
  rw [same, getOrCreate_prune, Prod.mk.injEq, Prod.mk.injEq] at both
  exact ⟨both.1.symm, both.2.1.symm, both.2.2.symm⟩

theorem ask_of_prune_eq (same : r.prune now = t.prune now)
    (dependency : String) (op : BreakerOp) :
    (r.ask now dependency op).1 = (t.ask now dependency op).1 ∧
      (r.ask now dependency op).2.1 = (t.ask now dependency op).2.1 ∧
      (r.ask now dependency op).2.2.prune now =
        (t.ask now dependency op).2.2.prune now := by
  obtain ⟨found, told, made⟩ := getOrCreate_of_prune_eq same dependency
  rw [getOrCreate_breaker, getOrCreate_breaker] at found
  obtain ⟨reply, signals, after⟩ := Breaker.perform_of_prune_eq found op
  simp only [ask_eq, put_prune]
  rw [reply, signals, after, told, made]
  exact ⟨rfl, rfl, rfl⟩

theorem reset_of_prune_eq (same : r.prune now = t.prune now)
    (dependency : String) :
    (r.reset dependency).1 = (t.reset dependency).1 ∧
      (r.reset dependency).2.1 = (t.reset dependency).2.1 ∧
      (r.reset dependency).2.2.prune now =
        (t.reset dependency).2.2.prune now := by
  have found := get?_of_prune_eq same dependency
  unfold reset
  cases made : r.get? dependency with
  | none =>
      rw [made, Option.map_none, eq_comm, Option.map_eq_none_iff] at found
      rw [found]
      exact ⟨rfl, rfl, same⟩
  | some b =>
      rw [made, Option.map_some, eq_comm, Option.map_eq_some_iff] at found
      obtain ⟨c, made', alike⟩ := found
      rw [made']
      obtain ⟨-, signals, after⟩ :=
        Breaker.perform_of_prune_eq alike.symm .reset
      change b.reset.breaker.prune now = c.reset.breaker.prune now at after
      refine ⟨rfl, signals, ?_⟩
      rw [put_prune, put_prune, same, after]

theorem resetAll_of_prune_eq (same : r.prune now = t.prune now) :
    r.resetAll.1 = t.resetAll.1 ∧
      r.resetAll.2.prune now = t.resetAll.2.prune now := by
  have signals (r : Registry) : r.resetAll.1 =
      (r.prune now).breakers.values.flatMap fun b => b.reset.signals := by
    rw [prune, Assoc.values_map, List.flatMap_map]
    rfl
  have after (r : Registry) : r.resetAll.2 = (r.prune now).resetAll.2 := by
    simp only [prune, resetAll, Assoc.map_map]
    rfl
  rw [signals r, signals t, after r, after t, same]
  exact ⟨rfl, rfl⟩

theorem state_of_prune_eq (same : r.prune now = t.prune now)
    (dependency : String) :
    (r.get? dependency).map (·.state) = (t.get? dependency).map (·.state) := by
  have states := congrArg (Option.map Breaker.state)
    (get?_of_prune_eq same dependency)
  simpa [Option.map_map, Function.comp_def] using states

theorem size_of_prune_eq (same : r.prune now = t.prune now) :
    r.breakers.size = t.breakers.size := by
  have size := congrArg (·.breakers.size) same
  simpa [prune] using size

theorem configFor_of_prune_eq (same : r.prune now = t.prune now) :
    r.configFor = t.configFor := by
  have pruned := congrArg configFor same
  exact pruned

/-! Reports -/

theorem ask_of_isReport {b : Breaker} (made : r.get? dependency = some b)
    {op : BreakerOp} (report : op.isReport) (now : Nat) :
    (r.ask now dependency op).2.1 = [] ∧
      (r.ask now dependency op).2.2.prune now = r.prune now := by
  have kept : (r.prune now).get? dependency = some (b.prune now) := by
    rw [get?_prune, made, Option.map_some]
  have again : (r.put dependency (b.prune now)).prune now = r.prune now := by
    rw [put_prune, Breaker.prune_prune]
    exact congrArg ({ r with breakers := · })
      (Assoc.insert_of_get?_eq_some kept)
  rw [ask_eq, found_of_some made, getOrCreate_of_some made]
  cases op with
  | failureCount => exact ⟨rfl, again⟩
  | snapshot => exact ⟨rfl, again⟩
  | _ => cases report

end Registry

end Tollgate
