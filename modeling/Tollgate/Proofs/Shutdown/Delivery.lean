import Mathlib.Data.Finset.Card
import Tollgate.Proofs.Shutdown.Broadcast

/-!
What a receiver gets. After any operations the next look of a receiver finds the
signal just if the receiver was there when it was first sent, is the same still,
and has not looked since. What others do makes no difference to it.
-/

namespace Tollgate

namespace Shutdown

variable {s t : Shutdown} {id other : String} {op : ShutdownOp}
  {ops : List ShutdownOp} {waits : Bool}

theorem run_append (s : Shutdown) (first second : List ShutdownOp) :
    (s.run (first ++ second)).2 = ((s.run first).2.run second).2 := by
  induction first generalizing s with
  | nil => rfl
  | cons op rest ih => exact ih _

/-! The mark of one receiver -/

/-- The receiver of this name stays the same one. -/
def Keeps (id : String) (ops : List ShutdownOp) : Prop :=
  ∀ op ∈ ops, op ≠ .subscribe id ∧ op ≠ .unsubscribe id

theorem keeps_concat :
    Keeps id (ops ++ [op]) ↔
      Keeps id ops ∧ op ≠ .subscribe id ∧ op ≠ .unsubscribe id := by
  rw [Keeps, List.forall_mem_append, List.forall_mem_singleton]
  rfl

/-- What an operation makes of the mark of a receiver that stays: a look takes
it off, the first trigger puts it on. -/
theorem get?_perform (s : Shutdown)
    (own : op ≠ .subscribe id ∧ op ≠ .unsubscribe id) :
    (s.perform op).2.receivers.get? id =
      (s.receivers.get? id).map fun waits =>
        op ≠ .tryReceive id && (waits || op = .trigger && ! s.triggered) := by
  cases op with
  | subscribe other =>
      have different : other ≠ id := fun same => own.1 (same ▸ rfl)
      simp [perform, get?_subscribe_other different]
  | unsubscribe other =>
      have different : other ≠ id := fun same => own.2 (same ▸ rfl)
      simp [perform, get?_unsubscribe_other different]
  | trigger =>
      cases sent : s.triggered with
      | true => simp [perform, trigger_of_triggered sent]
      | false => simp [perform, get?_trigger sent]
  | tryReceive other =>
      by_cases same : other = id
      · subst same
        by_cases waits : s.receivers.get? other = some true
        · simp [perform, tryReceive_of_waits waits, waits]
        · cases mark : s.receivers.get? other with
          | none => simp [perform, tryReceive_of_not waits, mark]
          | some waiting =>
              have idle : waiting = false := by
                simpa [mark] using waits
              simp [perform, tryReceive_of_not waits, mark, idle]
      · simp [perform, get?_tryReceive_other same, same]

theorem get?_run_unsent (unsent : s.triggered = false)
    (listening : s.receivers.get? id = some false) (keeps : Keeps id ops)
    (untriggered : .trigger ∉ ops) :
    (s.run ops).2.receivers.get? id = some false := by
  induction ops generalizing s with
  | nil => exact listening
  | cons op rest ih =>
      obtain ⟨here, later⟩ := not_or.mp (List.mem_cons.not.mp untriggered)
      apply ih (s := (s.perform op).2)
      · rw [Bool.eq_false_iff, ne_eq, perform_triggered]
        simp [unsent, Ne.symm here]
      · rw [s.get?_perform (keeps op List.mem_cons_self), listening]
        simp [Ne.symm here]
      · exact fun op member => keeps op (List.mem_cons_of_mem _ member)
      · exact later

theorem get?_run_sent (sent : s.triggered = true)
    (marked : s.receivers.get? id = some waits) (keeps : Keeps id ops) :
    (s.run ops).2.receivers.get? id =
      some (waits && .tryReceive id ∉ ops) := by
  induction ops generalizing s waits with
  | nil => simp [run, marked]
  | cons op rest ih =>
      have here := s.get?_perform (keeps op List.mem_cons_self)
      rw [marked, Option.map_some] at here
      have later : (s.perform op).2.triggered = true :=
        (perform_triggered s op).mpr (.inl sent)
      have next := ih later here
        fun op member => keeps op (List.mem_cons_of_mem _ member)
      refine Eq.trans next (congrArg some ?_)
      cases waits <;> simp [sent, eq_comm (a := op)]

/-! Where a receiver came from, and where its mark -/

/-- The receiver has subscribed in the course of the operations and is the same
still. -/
def IsLive (id : String) (ops : List ShutdownOp) : Prop :=
  ∃ earlier later, ops = earlier ++ .subscribe id :: later ∧ Keeps id later

/-- The first trigger among the operations comes after the receiver has
subscribed, which is the same still. -/
structure SentTo (id : String)
    (ops earlier listening later : List ShutdownOp) : Prop where
  split : ops = earlier ++ .subscribe id :: (listening ++ .trigger :: later)
  first : .trigger ∉ earlier ++ listening
  keeps : Keeps id (listening ++ later)

theorem isLive_concat_self (id : String) (ops : List ShutdownOp) :
    IsLive id (ops ++ [.subscribe id]) :=
  ⟨ops, [], rfl, nofun⟩

theorem IsLive.concat (live : IsLive id ops)
    (own : op ≠ .subscribe id ∧ op ≠ .unsubscribe id) :
    IsLive id (ops ++ [op]) := by
  obtain ⟨earlier, later, rfl, keeps⟩ := live
  exact ⟨earlier, later ++ [op], by simp, keeps_concat.mpr ⟨keeps, own⟩⟩

theorem isSome_run_of_keeps (there : (s.receivers.get? id).isSome)
    (keeps : Keeps id ops) : ((s.run ops).2.receivers.get? id).isSome := by
  induction ops generalizing s with
  | nil => exact there
  | cons op rest ih =>
      apply ih (s := (s.perform op).2)
      · rw [s.get?_perform (keeps op List.mem_cons_self), Option.isSome_map]
        exact there
      · exact fun op member => keeps op (List.mem_cons_of_mem _ member)

theorem perform_after (ops : List ShutdownOp) (op : ShutdownOp) :
    (run {} (ops ++ [op])).2 = ((run {} ops).2.perform op).2 :=
  run_append {} ops [op]

theorem isLive_of_isSome (there : ((run {} ops).2.receivers.get? id).isSome) :
    IsLive id ops := by
  induction ops using List.reverseRecOn with
  | nil => cases there
  | append_singleton ops op ih =>
      rw [perform_after] at there
      by_cases subscribes : op = .subscribe id
      · subst subscribes
        exact isLive_concat_self id ops
      · by_cases leaves : op = .unsubscribe id
        · subst leaves
          simp [perform, unsubscribe, Assoc.get?_erase] at there
        · have own := And.intro subscribes leaves
          rw [get?_perform _ own, Option.isSome_map] at there
          exact (ih there).concat own

theorem isLive_iff :
    ((run {} ops).2.receivers.get? id).isSome ↔ IsLive id ops := by
  refine ⟨isLive_of_isSome, ?_⟩
  rintro ⟨earlier, later, rfl, keeps⟩
  rw [List.append_cons, run_append, perform_after]
  apply isSome_run_of_keeps _ keeps
  rw [perform, subscribe, Assoc.get?_insert_self]
  rfl

theorem SentTo.concat {earlier listening later : List ShutdownOp}
    (sent : SentTo id ops earlier listening later)
    (own : op ≠ .subscribe id ∧ op ≠ .unsubscribe id) :
    SentTo id (ops ++ [op]) earlier listening (later ++ [op]) where
  split := by simp [sent.split]
  first := sent.first
  keeps := by
    rw [← List.append_assoc]
    exact keeps_concat.mpr ⟨sent.keeps, own⟩

theorem SentTo.mark {earlier listening later : List ShutdownOp}
    (sent : SentTo id ops earlier listening later) :
    (run {} ops).2.receivers.get? id = some (.tryReceive id ∉ later : Bool) := by
  obtain ⟨rfl, first, keeps⟩ := sent
  obtain ⟨before, between⟩ := not_or.mp (List.mem_append.not.mp first)
  have keepsListening : Keeps id listening :=
    fun op member => keeps op (List.mem_append_left _ member)
  have keepsLater : Keeps id later :=
    fun op member => keeps op (List.mem_append_right _ member)
  let subscribed := ((run {} earlier).2.subscribe id)
  have unsent : subscribed.triggered = false := by
    rw [subscribe_triggered, Bool.eq_false_iff, ne_eq, run_triggered]
    simp [before]
  have listens : (subscribed.run listening).2.receivers.get? id = some false :=
    get?_run_unsent unsent (Assoc.get?_insert_self _ _ _) keepsListening between
  have still : (subscribed.run listening).2.triggered = false := by
    rw [Bool.eq_false_iff, ne_eq, run_triggered]
    simp [unsent, between]
  have marked := get?_trigger still id
  rw [listens, Option.map_some] at marked
  have taken := get?_run_sent (trigger_triggered _) marked keepsLater
  rw [List.append_cons, run_append, perform_after, run_append]
  rw [Bool.true_and] at taken
  exact taken

theorem exists_sentTo (marked : (run {} ops).2.receivers.get? id = some true) :
    ∃ earlier listening later, SentTo id ops earlier listening later ∧
      .tryReceive id ∉ later := by
  induction ops using List.reverseRecOn with
  | nil => cases marked
  | append_singleton ops op ih =>
      have live := isLive_of_isSome (Option.isSome_of_eq_some marked)
      rw [perform_after] at marked
      by_cases own : op ≠ .subscribe id ∧ op ≠ .unsubscribe id
      · rw [get?_perform _ own, Option.map_eq_some_iff] at marked
        obtain ⟨waits, before, mark⟩ := marked
        obtain ⟨looks, mark⟩ := (Bool.and_eq_true _ _).mp mark
        have looks : op ≠ .tryReceive id := by simpa using looks
        rcases (Bool.or_eq_true _ _).mp mark with waits | first
        · subst waits
          obtain ⟨earlier, listening, later, sent, unread⟩ := ih before
          refine ⟨earlier, listening, later ++ [op], sent.concat own, ?_⟩
          simp [unread, Ne.symm looks]
        · obtain ⟨triggers, unsent⟩ := (Bool.and_eq_true _ _).mp first
          obtain rfl : op = .trigger := by simpa using triggers
          obtain ⟨earlier, listening, rfl, keeps⟩ :=
            isLive_of_isSome (Option.isSome_of_eq_some before)
          refine ⟨earlier, listening, [], ⟨by simp, ?_, by simpa using keeps⟩,
            nofun⟩
          have untriggered := (run_triggered {} _).not.mp
            (by simpa using unsent)
          simpa [not_or] using untriggered
      · rcases not_and_or.mp own with subscribes | leaves
        · cases not_not.mp subscribes
          rw [perform, subscribe, Assoc.get?_insert_self] at marked
          cases marked
        · cases not_not.mp leaves
          simp [perform, unsubscribe, Assoc.get?_erase] at marked

theorem tryReceive_eq_true_iff (s : Shutdown) (id : String) :
    (s.tryReceive id).1 = true ↔ s.receivers.get? id = some true := by
  by_cases mark : s.receivers.get? id = some true
  · simp [tryReceive_of_waits mark, mark]
  · simp [tryReceive_of_not mark, mark]

/-! What another receiver's looks change -/

/-- The shutdowns differ at most in the mark of one receiver. -/
structure AlikeBut (other : String) (s t : Shutdown) : Prop where
  triggered : s.triggered = t.triggered
  names : s.receivers.map (fun _ => ()) = t.receivers.map (fun _ => ())
  marks : ∀ id, id ≠ other → s.receivers.get? id = t.receivers.get? id

namespace AlikeBut

theorem refl (other : String) (s : Shutdown) : AlikeBut other s s :=
  ⟨rfl, rfl, fun _ _ => rfl⟩

theorem subscribe (alike : AlikeBut other s t) (id : String) :
    AlikeBut other (s.subscribe id) (t.subscribe id) where
  triggered := alike.triggered
  names := by
    simp only [Shutdown.subscribe, Assoc.map_insert, alike.names]
  marks name different := by
    simp only [Shutdown.subscribe, Assoc.get?_insert, alike.marks name different]

theorem unsubscribe (alike : AlikeBut other s t) (id : String) :
    AlikeBut other (s.unsubscribe id) (t.unsubscribe id) where
  triggered := alike.triggered
  names := by
    simp only [Shutdown.unsubscribe, Assoc.map_erase, alike.names]
  marks name different := by
    simp only [Shutdown.unsubscribe, Assoc.get?_erase,
      alike.marks name different]

theorem trigger (alike : AlikeBut other s t) :
    AlikeBut other s.trigger.2 t.trigger.2 := by
  unfold Shutdown.trigger
  rw [alike.triggered]
  split
  · exact alike
  · refine ⟨rfl, ?_, ?_⟩
    · rw [Assoc.map_map, Assoc.map_map]
      exact alike.names
    · intro name different
      simp only [Assoc.get?_map, alike.marks name different]

theorem tryReceive (alike : AlikeBut other s t) (different : id ≠ other) :
    (s.tryReceive id).1 = (t.tryReceive id).1 ∧
      AlikeBut other (s.tryReceive id).2 (t.tryReceive id).2 := by
  unfold Shutdown.tryReceive
  rw [alike.marks id different]
  split
  · refine ⟨rfl, alike.triggered, ?_, ?_⟩
    · simp only [Assoc.map_insert, alike.names]
    · intro name other
      simp only [Assoc.get?_insert, alike.marks name other]
  · exact ⟨rfl, alike⟩

theorem tryReceive_other (alike : AlikeBut other s t) :
    AlikeBut other (s.tryReceive other).2 t := by
  unfold Shutdown.tryReceive
  split
  · rename_i mark
    refine ⟨alike.triggered, ?_, ?_⟩
    · rw [Assoc.map_insert, alike.names, ← alike.names]
      apply Assoc.insert_of_get?_eq_some
      rw [Assoc.get?_map, mark]
      rfl
    · intro name different
      rw [Assoc.get?_insert_of_ne _ _ (Ne.symm different)]
      exact alike.marks name different
  · exact alike

theorem perform (alike : AlikeBut other s t)
    (different : op ≠ .tryReceive other) :
    (s.perform op).1 = (t.perform op).1 ∧
      AlikeBut other (s.perform op).2 (t.perform op).2 := by
  cases op with
  | subscribe id => exact ⟨rfl, alike.subscribe id⟩
  | unsubscribe id => exact ⟨rfl, alike.unsubscribe id⟩
  | trigger => exact ⟨rfl, alike.trigger⟩
  | tryReceive id =>
      exact alike.tryReceive fun same => different (congrArg _ same)

/-- Without the looks of one receiver everything else is answered the same. -/
theorem run (alike : AlikeBut other s t) (ops : List ShutdownOp) :
    let others := ops.filter (· ≠ .tryReceive other)
    (ops.zip (s.run ops).1).filter (·.1 ≠ .tryReceive other) =
        others.zip (t.run others).1 ∧
      AlikeBut other (s.run ops).2 (t.run others).2 := by
  induction ops generalizing s t with
  | nil => exact ⟨rfl, alike⟩
  | cons op rest ih =>
      by_cases same : op = .tryReceive other
      · subst same
        simpa [Shutdown.run, Shutdown.perform] using ih alike.tryReceive_other
      · obtain ⟨answer, next⟩ := alike.perform same
        simpa [Shutdown.run, same, answer] using ih next

theorem keys (alike : AlikeBut other s t) :
    s.receivers.keys = t.receivers.keys := by
  rw [← Assoc.keys_map (fun _ => ()), alike.names, Assoc.keys_map]

end AlikeBut

/-- Whatever has been done with a shutdown, and though its channel keeps but one
message: at most one was ever sent, and no receiver has missed it by falling
behind. It counts as triggered from the first trigger on, and has as many
receivers as are subscribed. A receiver that the first trigger found there gets
the signal when it first looks and never again; no other one ever gets it. And
all is answered as it would be without the looks of any other receiver. -/
theorem signal_delivered_once (ops : List ShutdownOp) :
    let s := (run {} ops).2
    let w := (BroadcastShutdown.run {} ops).2
    (BroadcastShutdown.run {} ops).1 = (run {} ops).1.map .ofSignal ∧
    w.channel.sent ≤ 1 ∧
    w.triggered = s.triggered ∧ (s.triggered = true ↔ .trigger ∈ ops) ∧
    (∃ live : Finset String, (∀ id, id ∈ live ↔ IsLive id ops) ∧
      s.receivers.size = live.card ∧ w.channel.receivers.size = live.card) ∧
    (∀ id earlier listening later, SentTo id ops earlier listening later →
      ((s.tryReceive id).1 = true ↔ .tryReceive id ∉ later)) ∧
    (∀ id, (s.tryReceive id).1 = true →
      ∃ earlier listening later, SentTo id ops earlier listening later) ∧
    ∀ other,
      let others := ops.filter (· ≠ .tryReceive other)
      (ops.zip (run {} ops).1).filter (·.1 ≠ .tryReceive other) =
          others.zip (run {} others).1 ∧
        s.triggered = (run {} others).2.triggered ∧
        s.receivers.keys = (run {} others).2.receivers.keys := by
  intro s w
  obtain ⟨answers, wired⟩ := Wired.fresh.run ops
  refine ⟨answers, wired.once, wired.triggered, ?_, ?_, ?_, ?_, ?_⟩
  · simpa using run_triggered {} ops
  · have size : s.receivers.size = s.receivers.keys.toFinset.card := by
      rw [List.toFinset_card_of_nodup s.receivers.nodup_keys, Assoc.keys,
        List.length_map]
      rfl
    refine ⟨s.receivers.keys.toFinset, ?_, size, ?_⟩
    · intro id
      rw [List.mem_toFinset, Assoc.mem_keys_iff]
      exact isLive_iff
    · rw [wired.places, Assoc.size_map]
      exact size
  · intro id earlier listening later sent
    rw [tryReceive_eq_true_iff, sent.mark]
    simp
  · intro id received
    obtain ⟨earlier, listening, later, sent, -⟩ :=
      exists_sentTo ((tryReceive_eq_true_iff s id).mp received)
    exact ⟨earlier, listening, later, sent⟩
  · intro other
    obtain ⟨same, alike⟩ := (AlikeBut.refl other {}).run ops
    exact ⟨same, alike.triggered, alike.keys⟩

/-- One receiver looks twice, and a second trigger comes before another has
looked at all. That one still gets the signal; the first one got it once, and
one that subscribed in between gets none. -/
theorem signal_delivered_once_to_slow_receiver :
    let later : List ShutdownOp := [
      .tryReceive "fast", .subscribe "late", .trigger, .tryReceive "fast"]
    let ops : List ShutdownOp :=
      .subscribe "fast" :: .subscribe "slow" :: .trigger :: later
    SentTo "slow" ops [.subscribe "fast"] [] later ∧
      SentTo "fast" ops [] [.subscribe "slow"] later ∧
      (BroadcastShutdown.run {} ops).1 =
        [.empty, .empty, .empty, .message 0, .empty, .empty, .empty] ∧
      ((run {} ops).2.tryReceive "slow").1 = true ∧
      ((run {} ops).2.tryReceive "fast").1 = false ∧
      ((run {} ops).2.tryReceive "late").1 = false := by
  intro later ops
  have slow : SentTo "slow" ops [.subscribe "fast"] [] later :=
    ⟨rfl, by decide, by unfold Keeps; decide⟩
  have fast : SentTo "fast" ops [] [.subscribe "slow"] later :=
    ⟨rfl, by decide, by unfold Keeps; decide⟩
  obtain ⟨receipts, -, -, -, -, gets, -⟩ := signal_delivered_once ops
  have again : ¬ ((run {} ops).2.tryReceive "fast").1 = true :=
    (gets "fast" _ _ _ fast).not.mpr (by decide)
  exact ⟨slow, fast, receipts.trans rfl,
    (gets "slow" _ _ _ slow).mpr (by decide), Bool.eq_false_iff.mpr again,
    by decide⟩

end Shutdown

end Tollgate
