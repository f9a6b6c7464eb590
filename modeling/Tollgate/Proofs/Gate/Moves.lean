import Tollgate.Proofs.Breaker.Registry
import Tollgate.Proofs.Gate.Charge
import Tollgate.Proofs.Spend.Run

/-!
What a gate does of its own accord. It comes down to three things: it tells what
happens, it asks its store, never for a negative amount, and it asks its
registry. Time, settings and tables are not its business.
-/

namespace Tollgate

namespace Gate

inductive Moves (g : Gate) : Gate → Prop where
  | refl : Moves g g
  | records {h : Gate} (moves : Moves g h) (telemetry : Telemetry) :
      Moves g { h with telemetry }
  | store {h : Gate} (moves : Moves g h) (op : SpendOp) (fair : op.IsFair) :
      Moves g (h.withStore (h.ledger.store.perform h.now op).2)
  | registry {h : Gate} (moves : Moves g h) (op : RegistryOp) :
      Moves g { h with registry := (h.registry.perform h.now op).2.2 }

variable {g h k : Gate}

structure SameRules (g h : Gate) : Prop where
  admin : h.admin = g.admin
  budget : h.ledger.budget = g.ledger.budget
  providers : h.providers = g.providers
  prices : h.prices = g.prices

namespace Moves

theorem trans (first : g.Moves h) (second : h.Moves k) : g.Moves k := by
  induction second with
  | refl => exact first
  | records moves telemetry ih => exact ih.records telemetry
  | store moves op fair ih => exact ih.store op fair
  | registry moves op ih => exact ih.registry op

/-! What moves leave alone -/

theorem now (moves : g.Moves h) : h.now = g.now := by
  induction moves with
  | refl => rfl
  | records moves telemetry ih => exact ih
  | store moves op fair ih => exact ih
  | registry moves op ih => exact ih

theorem rules (moves : g.Moves h) : g.SameRules h := by
  induction moves with
  | refl => exact ⟨rfl, rfl, rfl, rfl⟩
  | records moves telemetry ih => exact { ih with }
  | store moves op fair ih => exact { ih with }
  | registry moves op ih => exact { ih with }

theorem registry_run (moves : g.Moves h) :
    ∃ events, h.registry = (g.registry.run events).2.2 := by
  induction moves with
  | refl => exact ⟨[], rfl⟩
  | records moves telemetry ih => exact ih
  | store moves op fair ih => exact ih
  | @registry h moves op ih =>
      obtain ⟨events, after⟩ := ih
      refine ⟨events ++ [(h.now, op)], ?_⟩
      rw [Registry.run_append, ← after]
      rfl

/-- A live entry changes its total at most. -/
theorem get?_of_live {key : String} {e : SpendEntry} (moves : g.Moves h)
    (live : g.ledger.store.live? g.now key = some e) :
    ∃ total, h.ledger.store.entries.get? key = some { e with total } := by
  induction moves with
  | refl => exact ⟨e.total, (SpendStore.live?_eq_some.mp live).1⟩
  | records moves telemetry ih => exact ih
  | @store h moves op fair ih =>
      obtain ⟨total, found⟩ := ih
      have ends := (SpendStore.live?_eq_some.mp live).2
      rw [← moves.now] at ends
      have still : h.ledger.store.live? h.now key = some { e with total } :=
        SpendStore.live?_eq_some.mpr ⟨found, ends⟩
      obtain ⟨newer, after⟩ :=
        (SpendStore.Writes.perform _ h.now op).get?_of_live still
      exact ⟨newer, after⟩
  | registry moves op ih => exact ih

theorem orderly (moves : g.Moves h) (before : g.ledger.store.Orderly) :
    h.ledger.store.Orderly := by
  induction moves with
  | refl => exact before
  | records moves telemetry ih => exact ih
  | store moves op fair ih => exact ih.perform _ op
  | registry moves op ih => exact ih

theorem sound (moves : g.Moves h) (before : g.ledger.store.Sound) :
    h.ledger.store.Sound := by
  induction moves with
  | refl => exact before
  | records moves telemetry ih => exact ih
  | store moves op fair ih => exact ih.perform _ fair.chargesFairly
  | registry moves op ih => exact ih

theorem told (moves : g.Moves h) (signals : List Signal) :
    g.Moves (h.tell signals) := moves.records _

end Moves

end Gate

end Tollgate
