import Tollgate.Assoc.Lemmas
import Tollgate.Broadcast
import Tollgate.Proofs.Shutdown

/-!
Shutdown as a flag in front of a channel with room for one message. Since the
flag lets no second message through, no receiver ever falls behind, and the
channel is as good as a mark for each receiver that the signal waits for it.
-/

namespace Tollgate

def Receipt.ofSignal (received : Bool) : Receipt :=
  if received then .message 0 else .empty

/-- The place of a receiver in a channel: before the first message as long as
that waits for it, behind all of them otherwise. -/
def Broadcast.placeOf (sent : Nat) (waits : Bool) : Nat :=
  if waits then 0 else sent

/-- The channel has what the marks say: those that are marked have the first
message still before them, all others have none, and no second one was sent. -/
structure Shutdown.Wired (s : Shutdown) (w : BroadcastShutdown) : Prop where
  triggered : w.triggered = s.triggered
  capacity : w.channel.capacity = 1
  places : w.channel.receivers =
    s.receivers.map (Broadcast.placeOf w.channel.sent)
  once : w.channel.sent ≤ 1
  unsent : s.triggered = false → w.channel.sent = 0
  waited : ∀ id, s.receivers.get? id = some true → w.channel.sent = 1

namespace Shutdown.Wired

variable {s : Shutdown} {w : BroadcastShutdown}

theorem fresh : Wired {} {} where
  triggered := rfl
  capacity := rfl
  places := rfl
  once := Nat.zero_le 1
  unsent _ := rfl
  waited := nofun

theorem subscribe (wired : s.Wired w) (id : String) :
    (s.subscribe id).Wired { w with channel := w.channel.subscribe id } where
  triggered := wired.triggered
  capacity := wired.capacity
  places := by
    change w.channel.receivers.insert id w.channel.sent =
      (s.receivers.insert id false).map _
    rw [Assoc.map_insert, wired.places]
    rfl
  once := wired.once
  unsent := wired.unsent
  waited other waits := by
    by_cases same : id = other
    · subst same
      rw [Shutdown.subscribe, Assoc.get?_insert_self] at waits
      cases waits
    · rw [Shutdown.subscribe, Assoc.get?_insert_of_ne _ _ same] at waits
      exact wired.waited other waits

theorem unsubscribe (wired : s.Wired w) (id : String) :
    (s.unsubscribe id).Wired
      { w with channel := w.channel.unsubscribe id } where
  triggered := wired.triggered
  capacity := wired.capacity
  places := by
    change w.channel.receivers.erase id = (s.receivers.erase id).map _
    rw [wired.places, Assoc.map_erase]
    rfl
  once := wired.once
  unsent := wired.unsent
  waited other waits := by
    rw [Shutdown.unsubscribe, Assoc.get?_erase] at waits
    split at waits
    · cases waits
    · exact wired.waited other waits

theorem trigger (wired : s.Wired w) : s.trigger.2.Wired w.trigger := by
  unfold Shutdown.trigger BroadcastShutdown.trigger
  rw [wired.triggered]
  cases again : s.triggered with
  | true => exact wired
  | false =>
      have none := wired.unsent again
      have places := wired.places
      rw [none] at places
      -- Who is sent the first message has none behind it.
      have first : (s.receivers.map fun _ => true).map (Broadcast.placeOf 1) =
          w.channel.receivers := by
        rw [places, Assoc.map_map]
        apply congrArg s.receivers.map
        funext waits
        cases waits <;> rfl
      simp only [Bool.false_eq_true, if_false, Broadcast.send]
      split
      · rename_i alone
        have noReceiver : ∀ id, s.receivers.get? id = Option.none := by
          intro id
          have absent : w.channel.receivers.get? id = Option.none := by
            rw [Assoc.get?, List.isEmpty_iff.mp alone]
            rfl
          rw [places, Assoc.get?_map, Option.map_eq_none_iff] at absent
          exact absent
        refine ⟨rfl, wired.capacity, ?_, wired.once, Bool.noConfusion, ?_⟩
        · rw [wired.places]
          apply Assoc.ext_get?
          intro id
          simp [noReceiver]
        · intro id waits
          simp [noReceiver] at waits
      · refine ⟨rfl, wired.capacity, ?_, ?_, Bool.noConfusion, ?_⟩
        · simp only [none]
          exact first.symm
        · simp [none]
        · intro id _
          simp [none]

theorem tryReceive (wired : s.Wired w) (id : String) :
    (w.channel.tryReceive id).1 = .ofSignal (s.tryReceive id).1 ∧
      (s.tryReceive id).2.Wired
        { w with channel := (w.channel.tryReceive id).2 } := by
  have place : w.channel.receivers.get? id =
      (s.receivers.get? id).map (Broadcast.placeOf w.channel.sent) := by
    rw [wired.places, Assoc.get?_map]
  cases mark : s.receivers.get? id with
  | none =>
      rw [mark, Option.map_none] at place
      rw [Broadcast.tryReceive_of_absent place,
        s.tryReceive_of_not (by simp [mark])]
      exact ⟨rfl, wired⟩
  | some waits =>
      rw [mark, Option.map_some] at place
      cases waits with
      | false =>
          rw [Broadcast.tryReceive_of_caughtUp place,
            s.tryReceive_of_not (by simp [mark])]
          exact ⟨rfl, wired⟩
      | true =>
          have one := wired.waited id mark
          have capacity := wired.capacity
          have place : w.channel.receivers.get? id = some 0 := place
          rw [Broadcast.tryReceive_of_kept place (by omega) (by omega),
            s.tryReceive_of_waits mark]
          refine ⟨rfl, wired.triggered, capacity, ?_, wired.once, wired.unsent,
            fun _ _ => one⟩
          change w.channel.receivers.insert id 1 =
            (s.receivers.insert id false).map _
          rw [Assoc.map_insert, wired.places]
          simp only [one]
          rfl

theorem perform (wired : s.Wired w) (op : ShutdownOp) :
    (w.perform op).1 = .ofSignal (s.perform op).1 ∧
      (s.perform op).2.Wired (w.perform op).2 := by
  cases op with
  | subscribe id => exact ⟨rfl, wired.subscribe id⟩
  | unsubscribe id => exact ⟨rfl, wired.unsubscribe id⟩
  | trigger => exact ⟨rfl, wired.trigger⟩
  | tryReceive id => exact wired.tryReceive id

theorem run (wired : s.Wired w) (ops : List ShutdownOp) :
    (w.run ops).1 = (s.run ops).1.map .ofSignal ∧
      (s.run ops).2.Wired (w.run ops).2 := by
  induction ops generalizing s w with
  | nil => exact ⟨rfl, wired⟩
  | cons op rest ih =>
      obtain ⟨receipt, wired⟩ := wired.perform op
      obtain ⟨receipts, wired⟩ := ih wired
      exact ⟨List.cons_eq_cons.mpr ⟨receipt, receipts⟩, wired⟩

end Shutdown.Wired

end Tollgate
