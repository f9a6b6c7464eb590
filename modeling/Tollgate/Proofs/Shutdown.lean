import Mathlib.Data.List.Induction
import Tollgate.Assoc.Lemmas
import Tollgate.Lifecycle

/-!
Whom the shutdown signal reaches. It is sent once, to the receivers that are
there at that moment; one that comes later never gets it. The main task starts
the handler that sends it well before it subscribes, and what is sent in between
leaves it waiting for good.
-/

namespace Tollgate

namespace Shutdown

variable {s : Shutdown} {id other : String} {waits : Bool}

/-- The receiver takes the signal in the course of the operations, or it waits
for the receiver after them. -/
def Reaches (s : Shutdown) (id : String) (ops : List ShutdownOp) : Prop :=
  (.tryReceive id, true) ∈ ops.zip (s.run ops).1 ∨
    (s.run ops).2.receivers.get? id = some true

theorem reaches_cons (s : Shutdown) (id : String) (op : ShutdownOp)
    (rest : List ShutdownOp) :
    s.Reaches id (op :: rest) ↔
      op = .tryReceive id ∧ (s.perform op).1 = true ∨
        (s.perform op).2.Reaches id rest := by
  have run : s.run (op :: rest) =
      ((s.perform op).1 :: ((s.perform op).2.run rest).1,
        ((s.perform op).2.run rest).2) := rfl
  rw [Reaches, run, List.zip_cons_cons, List.mem_cons, Prod.mk.injEq, or_assoc,
    eq_comm (a := ShutdownOp.tryReceive id), eq_comm (a := true)]
  rfl

/-! What one operation does to a receiver -/

@[simp]
theorem subscribe_triggered (s : Shutdown) (id : String) :
    (s.subscribe id).triggered = s.triggered := rfl

@[simp]
theorem unsubscribe_triggered (s : Shutdown) (id : String) :
    (s.unsubscribe id).triggered = s.triggered := rfl

theorem get?_subscribe_other (different : other ≠ id) :
    (s.subscribe other).receivers.get? id = s.receivers.get? id :=
  Assoc.get?_insert_of_ne _ _ different

theorem get?_unsubscribe_other (different : other ≠ id) :
    (s.unsubscribe other).receivers.get? id = s.receivers.get? id := by
  rw [unsubscribe, Assoc.get?_erase, if_neg different]

theorem trigger_of_triggered (sent : s.triggered) : s.trigger = ([], s) :=
  if_pos sent

@[simp]
theorem trigger_triggered (s : Shutdown) : s.trigger.2.triggered = true := by
  unfold trigger
  split
  · assumption
  · rfl

theorem get?_trigger (unsent : s.triggered = false) (id : String) :
    s.trigger.2.receivers.get? id =
      (s.receivers.get? id).map fun _ => true := by
  rw [trigger, unsent]
  exact Assoc.get?_map _ _ _

theorem tryReceive_of_waits (waits : s.receivers.get? id = some true) :
    s.tryReceive id =
      (true, { s with receivers := s.receivers.insert id false }) :=
  if_pos waits

theorem tryReceive_of_not (idle : s.receivers.get? id ≠ some true) :
    s.tryReceive id = (false, s) :=
  if_neg idle

@[simp]
theorem tryReceive_triggered (s : Shutdown) (id : String) :
    (s.tryReceive id).2.triggered = s.triggered := by
  unfold tryReceive
  split
  · rfl
  · rfl

theorem get?_tryReceive_other (different : other ≠ id) :
    (s.tryReceive other).2.receivers.get? id = s.receivers.get? id := by
  unfold tryReceive
  split
  · exact Assoc.get?_insert_of_ne _ _ different
  · rfl

theorem perform_triggered (s : Shutdown) (op : ShutdownOp) :
    (s.perform op).2.triggered ↔ s.triggered ∨ op = .trigger := by
  cases op with
  | subscribe other => simp [perform]
  | unsubscribe other => simp [perform]
  | trigger => simp [perform]
  | tryReceive other => simp [perform]

/-! Runs -/

theorem run_triggered (s : Shutdown) (ops : List ShutdownOp) :
    (s.run ops).2.triggered ↔ s.triggered ∨ .trigger ∈ ops := by
  induction ops generalizing s with
  | nil => simp [run]
  | cons op rest ih =>
      change ((s.perform op).2.run rest).2.triggered ↔ _
      rw [ih, perform_triggered, List.mem_cons, or_assoc,
        eq_comm (a := op)]

theorem reaches_iff (listening : s.receivers.get? id = some waits)
    {ops : List ShutdownOp}
    (own : ∀ op ∈ ops, op ≠ .subscribe id ∧ op ≠ .unsubscribe id) :
    s.Reaches id ops ↔
      waits = true ∨ s.triggered = false ∧ .trigger ∈ ops := by
  induction ops generalizing s waits with
  | nil => simp [Reaches, run, listening]
  | cons op rest ih =>
      have here := own op List.mem_cons_self
      have later := fun op member => own op (List.mem_cons_of_mem _ member)
      rw [reaches_cons]
      cases op with
      | subscribe other =>
          have different : other ≠ id := fun same => here.1 (same ▸ rfl)
          have same := (get?_subscribe_other (s := s) different).trans listening
          simp [perform, ih same later]
      | unsubscribe other =>
          have different : other ≠ id := fun same => here.2 (same ▸ rfl)
          have same :=
            (get?_unsubscribe_other (s := s) different).trans listening
          simp [perform, ih same later]
      | trigger =>
          cases sent : s.triggered with
          | true =>
              simp [perform, trigger_of_triggered sent, ih listening later,
                sent]
          | false =>
              have reached : s.trigger.2.receivers.get? id = some true := by
                rw [get?_trigger sent, listening, Option.map_some]
              simp [perform, ih reached later]
      | tryReceive other =>
          by_cases different : other ≠ id
          · have same :=
              (get?_tryReceive_other (s := s) different).trans listening
            simp [perform, ih same later, different]
          · cases not_not.mp different
            cases waits with
            | true => simp [perform, tryReceive_of_waits listening]
            | false =>
                have idle : s.receivers.get? id ≠ some true := by
                  simp [listening]
                simp [perform, tryReceive_of_not idle, ih listening later]

/-- A new receiver is reached by the signal if it has not been sent before. -/
theorem subscribe_reaches_iff (s : Shutdown) (id : String)
    {earlier later : List ShutdownOp}
    (own : ∀ op ∈ later, op ≠ .subscribe id ∧ op ≠ .unsubscribe id) :
    ((s.run earlier).2.subscribe id).Reaches id later ↔
      s.triggered = false ∧ .trigger ∉ earlier ∧ .trigger ∈ later := by
  have listening :
      ((s.run earlier).2.subscribe id).receivers.get? id = some false :=
    Assoc.get?_insert_self _ _ _
  have sent := s.run_triggered earlier
  rw [reaches_iff listening own]
  change false = true ∨ (s.run earlier).2.triggered = false ∧ _ ↔ _
  rw [Bool.eq_false_iff, ne_eq, sent]
  simp [and_assoc]

end Shutdown

/-- The handler can send the signal, and the main task does not listen yet. -/
def Phase.isDeaf : Phase → Bool
  | handlerStarted | watching | listening => true
  | begun | subscribed | waiting | signalled => false

namespace Lifecycle

variable {l : Lifecycle} {tasks : List Task} {task : Task}

/-- The handler has sent the signal while the main task did not listen. -/
def SentEarly (tasks : List Task) : Prop :=
  ∃ before, before ++ [.handler] <+: tasks ∧
    (run {} before).phase.isDeaf = true

theorem run_append (l : Lifecycle) (before later : List Task) :
    l.run (before ++ later) = (l.run before).run later := by
  simp [run]

theorem not_sentEarly_nil : ¬ SentEarly [] := by
  rintro ⟨before, sent, -⟩
  simp at sent

theorem sentEarly_concat (tasks : List Task) (task : Task) :
    SentEarly (tasks ++ [task]) ↔
      SentEarly tasks ∨
        task = .handler ∧ (run {} tasks).phase.isDeaf = true := by
  unfold SentEarly
  constructor
  · rintro ⟨before, sent, deaf⟩
    rcases List.prefix_concat_iff.mp sent with whole | inner
    · obtain ⟨rfl, last⟩ := List.append_inj' whole rfl
      exact .inr ⟨(List.singleton_inj.mp last).symm, deaf⟩
    · exact .inl ⟨before, inner, deaf⟩
  · rintro (⟨before, sent, deaf⟩ | ⟨rfl, deaf⟩)
    · exact ⟨before, sent.trans (List.prefix_append _ _), deaf⟩
    · exact ⟨tasks, List.prefix_rfl, deaf⟩

/-- What is true in each phase of the main task's receiver, and of the signal.
`early` says that the signal was sent too early for that receiver. -/
def Tracks (early : Prop) (l : Lifecycle) : Prop :=
  match l.phase with
  | .begun => ¬ early ∧ l.shutdown.triggered = false
  | .handlerStarted | .watching | .listening =>
      early ↔ l.shutdown.triggered = true
  | .subscribed | .waiting =>
      (early → l.shutdown.triggered = true) ∧
        ∃ waits, l.shutdown.receivers.get? receiver = some waits ∧
          (waits = true ↔ l.shutdown.triggered = true ∧ ¬ early)
  | .signalled => ¬ early

theorem Tracks.stepMain {early : Prop} (tracks : l.Tracks early) :
    l.stepMain.Tracks early := by
  obtain ⟨phase, shutdown⟩ := l
  cases phase with
  | begun =>
      obtain ⟨punctual, unsent⟩ := tracks
      exact ⟨fun early => absurd early punctual,
        fun sent => absurd sent (Bool.eq_false_iff.mp unsent)⟩
  | handlerStarted => exact tracks
  | watching => exact tracks
  | listening =>
      refine ⟨tracks.mp, false, Assoc.get?_insert_self _ _ _, ?_⟩
      change early ↔ shutdown.triggered = true at tracks
      change false = true ↔ shutdown.triggered = true ∧ ¬ early
      simp [tracks]
  | subscribed => exact tracks
  | waiting =>
      obtain ⟨sent, waits, listening, signal⟩ := tracks
      cases waits with
      | true =>
          have taken := Shutdown.tryReceive_of_waits listening
          simpa [Tracks, Lifecycle.stepMain, taken] using (signal.mp rfl).2
      | false =>
          have idle : shutdown.receivers.get? receiver ≠ some true := by
            rw [listening]
            exact nofun
          have same := Shutdown.tryReceive_of_not idle
          simp only [Tracks, Lifecycle.stepMain, same, Bool.false_eq_true,
            if_false]
          exact ⟨sent, false, listening, signal⟩
  | signalled => exact tracks

theorem stepHandler_of_ne_begun (started : l.phase ≠ .begun) :
    l.stepHandler.2 = { l with shutdown := l.shutdown.trigger.2 } := by
  rw [stepHandler, if_neg started]

theorem Tracks.stepHandler {early : Prop} (tracks : l.Tracks early) :
    l.stepHandler.2.Tracks (early ∨ l.phase.isDeaf = true) := by
  obtain ⟨phase, shutdown⟩ := l
  have sent := shutdown.trigger_triggered
  cases phase with
  | begun =>
      simpa [Tracks, Lifecycle.stepHandler, Phase.isDeaf] using tracks
  | handlerStarted | watching | listening =>
      rw [stepHandler_of_ne_begun (by simp)]
      simp [Tracks, Phase.isDeaf]
  | subscribed | waiting =>
      rw [stepHandler_of_ne_begun (by simp)]
      obtain ⟨before, waits, listening, signal⟩ := tracks
      simp only [Phase.isDeaf, Bool.false_eq_true, or_false]
      cases again : shutdown.triggered with
      | true =>
          rw [Shutdown.trigger_of_triggered again]
          exact ⟨before, waits, listening, signal⟩
      | false =>
          have reached := Shutdown.get?_trigger again receiver
          rw [listening, Option.map_some] at reached
          have late : ¬ early := by
            intro early
            have sent : shutdown.triggered = true := before early
            rw [again] at sent
            cases sent
          exact ⟨fun _ => sent, true, reached, by simp [late]⟩
  | signalled =>
      simpa [Tracks, Lifecycle.stepHandler, Phase.isDeaf] using tracks

theorem tracks_run (tasks : List Task) :
    (run {} tasks).Tracks (SentEarly tasks) := by
  -- From the back, since what is sent early is told by prefixes.
  induction tasks using List.reverseRecOn with
  | nil => exact ⟨not_sentEarly_nil, rfl⟩
  | append_singleton tasks task ih =>
      rw [run_append]
      cases task with
      | main =>
          simp only [sentEarly_concat, reduceCtorEq, false_and, or_false]
          exact ih.stepMain
      | handler =>
          simp only [sentEarly_concat, true_and]
          exact ih.stepHandler

theorem isStranded_iff :
    l.isStranded ↔ l.phase = .waiting ∧ l.shutdown.triggered = true ∧
      l.shutdown.receivers.get? receiver ≠ some true := by
  simp [isStranded, and_assoc]

theorem isStranded_step (stranded : l.isStranded) (task : Task) :
    (l.step task).isStranded := by
  obtain ⟨waiting, sent, idle⟩ := isStranded_iff.mp stranded
  cases task with
  | main =>
      have same : l.stepMain = l := by
        rw [stepMain, waiting]
        simp only [Shutdown.tryReceive_of_not idle, Bool.false_eq_true,
          if_false]
        rw [← waiting]
      rwa [step, same]
  | handler =>
      have same : l.stepHandler.2 = l := by
        rw [stepHandler_of_ne_begun (by simp [waiting]),
          Shutdown.trigger_of_triggered sent]
      rwa [step, same]

theorem isStranded_run (stranded : l.isStranded) (tasks : List Task) :
    (l.run tasks).isStranded := by
  induction tasks generalizing l with
  | nil => exact stranded
  | cons task rest ih => exact ih (isStranded_step stranded task)

theorem SentEarly.append (early : SentEarly tasks) (later : List Task) :
    SentEarly (tasks ++ later) := by
  obtain ⟨before, sent, deaf⟩ := early
  exact ⟨before, sent.trans (List.prefix_append _ _), deaf⟩

/-- The main task has nothing left to do but to wait. -/
def IsUp (l : Lifecycle) : Prop :=
  l.phase = .waiting ∨ l.phase = .signalled

theorem IsUp.stepMain (up : l.IsUp) : l.stepMain.IsUp := by
  obtain ⟨phase, shutdown⟩ := l
  rcases up with waiting | signalled
  · cases waiting
    cases taken : (shutdown.tryReceive receiver).1 with
    | true => exact .inr (by simp [Lifecycle.stepMain, taken])
    | false => exact .inl (by simp [Lifecycle.stepMain, taken])
  · cases signalled
    exact .inr rfl

theorem isUp_run_of_ne_begun (started : l.phase ≠ .begun) :
    (l.run (List.replicate 4 .main)).IsUp := by
  have waits (shutdown : Shutdown) : IsUp ⟨.waiting, shutdown⟩ := .inl rfl
  obtain ⟨phase, shutdown⟩ := l
  cases phase with
  | begun => exact absurd rfl started
  | handlerStarted => exact waits _
  | watching => exact (waits _).stepMain
  | listening => exact (waits _).stepMain.stepMain
  | subscribed => exact (waits _).stepMain.stepMain.stepMain
  | waiting => exact (waits _).stepMain.stepMain.stepMain.stepMain
  | signalled => exact .inr rfl

theorem isStranded_iff_sentEarly (tasks : List Task) :
    (run {} tasks).isStranded ↔
      (run {} tasks).phase = .waiting ∧ SentEarly tasks := by
  have tracks := tracks_run tasks
  rw [isStranded_iff]
  constructor
  · rintro ⟨waiting, sent, idle⟩
    simp only [Tracks, waiting] at tracks
    obtain ⟨-, waits, listening, signal⟩ := tracks
    refine ⟨waiting, ?_⟩
    by_contra punctual
    exact idle (signal.mpr ⟨sent, punctual⟩ ▸ listening)
  · rintro ⟨waiting, early⟩
    simp only [Tracks, waiting] at tracks
    obtain ⟨sent, waits, listening, signal⟩ := tracks
    refine ⟨waiting, sent early, ?_⟩
    rw [listening]
    rintro taken
    exact (signal.mp (Option.some.inj taken)).2 early

theorem isStranded_of_sentEarly (early : SentEarly tasks) :
    ((run {} tasks).run (List.replicate 4 .main)).isStranded := by
  have started : (run {} tasks).phase ≠ .begun := by
    intro begun
    have tracks := tracks_run tasks
    simp only [Tracks, begun] at tracks
    exact tracks.1 early
  have later := early.append (List.replicate 4 .main)
  have up := isUp_run_of_ne_begun started
  rw [← run_append] at up ⊢
  rcases up with waiting | signalled
  · exact (isStranded_iff_sentEarly _).mpr ⟨waiting, later⟩
  · have tracks := tracks_run (tasks ++ List.replicate 4 .main)
    simp only [Tracks, signalled] at tracks
    exact absurd later tracks

theorem signalled_of_not_sentEarly
    (sent : (run {} tasks).shutdown.triggered = true)
    (punctual : ¬ SentEarly tasks) :
    ((run {} tasks).run [.main, .main]).phase = .signalled := by
  have tracks := tracks_run tasks
  generalize run {} tasks = l at sent tracks ⊢
  obtain ⟨phase, shutdown⟩ := l
  have taken (listens : ∃ waits,
      shutdown.receivers.get? receiver = some waits ∧
        (waits = true ↔ shutdown.triggered = true ∧ ¬ SentEarly tasks)) :
      (shutdown.tryReceive receiver).1 = true := by
    obtain ⟨waits, listening, signal⟩ := listens
    rw [signal.mpr ⟨sent, punctual⟩] at listening
    rw [Shutdown.tryReceive_of_waits listening]
  cases phase with
  | begun =>
      rw [tracks.2] at sent
      cases sent
  | handlerStarted | watching | listening =>
      exact absurd (tracks.mpr sent) punctual
  | subscribed => simp [run, step, stepMain, taken tracks.2]
  | waiting => simp [run, step, stepMain, taken tracks.2]
  | signalled => rfl

/-- The signal reaches the receivers that are there when it is sent, and no
later one. So the main task misses it just if it is sent between the start of
the handler and the subscription. Then it waits for good; otherwise it stops. -/
theorem missed_iff_sent_before_subscription {id : String}
    {earlier later : List ShutdownOp}
    (own : ∀ op ∈ later, op ≠ .subscribe id ∧ op ≠ .unsubscribe id)
    (tasks : List Task) :
    let l := run {} tasks
    (((Shutdown.run {} earlier).2.subscribe id).Reaches id later ↔
      .trigger ∉ earlier ∧ .trigger ∈ later) ∧
    (l.isStranded ↔ l.phase = .waiting ∧ SentEarly tasks) ∧
    (SentEarly tasks → (l.run (List.replicate 4 .main)).isStranded) ∧
    (l.isStranded → ∀ more, (l.run more).isStranded) ∧
    (l.shutdown.triggered → ¬ SentEarly tasks →
      (l.run [.main, .main]).phase = .signalled) := by
  intro l
  refine ⟨?_, isStranded_iff_sentEarly tasks, isStranded_of_sentEarly,
    isStranded_run, signalled_of_not_sentEarly⟩
  rw [Shutdown.subscribe_reaches_iff _ _ own]
  simp

/-- A receiver that is there in time takes the signal, and so does the main
task. -/
theorem missed_iff_sent_before_subscription_in_time :
    let tasks : List Task := [.main, .main, .main, .main, .handler, .main]
    (Shutdown.run {} [.subscribe "main", .trigger, .tryReceive "main"]).1 =
        [false, false, true] ∧
      ((Shutdown.run {} []).2.subscribe "main").Reaches "main"
        [.trigger, .tryReceive "main"] ∧
      ¬ (run {} tasks).isStranded ∧ (run {} tasks).phase = .waiting ∧
      ¬ SentEarly tasks := by
  intro tasks
  obtain ⟨reached, stranded, -⟩ :=
    @missed_iff_sent_before_subscription "main" []
      [.trigger, .tryReceive "main"] (by decide) tasks
  have waiting : (run {} tasks).phase = .waiting := by decide
  have heard : ¬ (run {} tasks).isStranded := by decide
  exact ⟨by decide, reached.mpr (by decide), heard, waiting,
    fun early => heard (stranded.mpr ⟨waiting, early⟩)⟩

/-- The handler is quicker than the main task, which waits in vain, whatever is
tried afterwards. A receiver that comes after the signal gets none from a second
try to send it. -/
theorem missed_by_late_receiver :
    (run {} [.main, .handler, .main, .main, .main, .main]).isStranded ∧
      (run {} [.main, .handler, .main, .main, .main, .main, .handler,
        .main]).isStranded ∧
      Shutdown.run {} [.trigger, .subscribe "main", .trigger,
          .tryReceive "main"] =
        ([false, false, false, false],
          { triggered := true
            receivers := Assoc.empty.insert "main" false }) :=
  ⟨by decide, by decide, rfl⟩

end Lifecycle

end Tollgate
