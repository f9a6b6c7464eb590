import Tollgate.Proofs.Breaker.Transition
import Tollgate.Proofs.Gate.Protocol
import Tollgate.Session.Run

/-!
Open breakers. From the instant at which a breaker opens it grants nothing until
its reset timeout has passed, unless it is reset; and as long as it grants
nothing, whatever it hears can only put the first trial off. An operation reads
the clock and gets hold of the breaker at one instant (`Clock.InOrder`): of two
that overtake each other between the two steps nothing is said here.
-/

namespace Tollgate

namespace Breaker

/-- Open, and the last failure was at an instant. -/
structure OpenSince (b : Breaker) (failure : Nat) : Prop where
  opened : b.state = .opened
  last : b.lastFailure = some failure

theorem OpenSince.grants_iff {b : Breaker} {failure : Nat}
    (since : b.OpenSince failure) (now : Nat) :
    b.grants now ↔ failure + b.config.resetTimeout < now := by
  simp only [grants, since.opened, since.last, ne_eq, not_true_eq_false,
    decide_false, Option.all_some, Bool.false_or, decide_eq_true_eq]
  omega

theorem OpenSince.grants_eq_false {b : Breaker} {failure now : Nat}
    (since : b.OpenSince failure)
    (early : now ≤ failure + b.config.resetTimeout) : b.grants now = false := by
  rw [Bool.eq_false_iff, ne_eq, since.grants_iff]
  omega

end Breaker

namespace Clients

/-- An attempt at the instant would be granted. -/
def Admits (c : Clients Breaker) (now : Nat) : Prop :=
  ∃ permit, (c.step Breaker.kind now (.ask .acquire)).1 = .permit permit

def Refuses (c : Clients Breaker) (now : Nat) : Prop :=
  ∃ circuit, (c.step Breaker.kind now (.ask .acquire)).1 =
    .breaker (.refused circuit)

/-- An operation opens the breaker: one that was not open trips, or it is forced
open. -/
structure Opens (c : Clients Breaker) (now : Nat) (op : ClientOp) : Prop where
  enters : c.breaker.state ≠ .opened ∨ op = .ask .forceOpen
  opened : (c.step Breaker.kind now op).2.breaker.state = .opened

variable {c : Clients Breaker} {now failure opening : Nat} {op : ClientOp}

theorem admits_iff : c.Admits now ↔ c.breaker.grants now := by
  constructor
  · rintro ⟨permit, answer⟩
    rcases c.gives_or_givesNone now (.ask .acquire) with given | none
    · exact given.granted
    · exact absurd answer (none.answer permit)
  · exact fun granted => ⟨_, (gives_of_grants granted).answer⟩

theorem refuses_of_not_grants (early : c.breaker.grants now = false) :
    c.Refuses now := by
  have wait : c.breaker.retryAfter? now ≠ none := by
    simp [Breaker.retryAfter?_eq_none_iff, early]
  obtain ⟨rest, early⟩ := Option.ne_none_iff_exists'.mp wait
  have refused : (c.breaker.perform now .acquire).1 =
      .refused ⟨c.breaker.dependency, rest⟩ := by
    change BreakerReply.ofRefusal (c.breaker.acquire now).1 = _
    rw [Breaker.acquire_of_refused early]
    rfl
  have kept := ask_of_not_granted (c := c) (by rw [refused]; exact nofun)
  rw [refused] at kept
  exact ⟨_, congrArg Prod.fst kept⟩

theorem Opens.openSince (opens : c.Opens opening op) :
    (c.step Breaker.kind opening op).2.breaker.OpenSince opening := by
  refine ⟨opens.opened, ?_⟩
  have change := c.step_change opening op
  have opened := opens.opened
  generalize (c.step Breaker.kind opening op).2.breaker.state = state
    at change opened
  generalize (c.step Breaker.kind opening op).2.breaker.lastFailure = last
    at change ⊢
  generalize hears : c.heard? op = heard at change
  cases change with
  | kept heard unfailed unreset unforced waits =>
      rcases opens.enters with other | rfl
      · exact absurd opened other
      · exact absurd hears.symm unforced
  | trial wasOpen granted => cases opened
  | recovered halfOpen => cases opened
  | failed state stays ends => rfl
  | reset => cases opened
  | forced => rfl

/-- As long as no permit is given, the failure that counts never moves back. -/
theorem openSince_step (since : c.breaker.OpenSince failure)
    (past : failure ≤ now) (unreset : op ≠ .ask .reset)
    (none : (c.step Breaker.kind now op).2.granted = c.granted) :
    ∃ next, (c.step Breaker.kind now op).2.breaker.OpenSince next ∧
      failure ≤ next ∧ next ≤ now := by
  have refused : op = .ask .acquire → c.breaker.grants now = false := by
    rcases c.gives_or_givesNone now op with given | givesNone
    · have more := given.count
      omega
    · exact givesNone.refused
  have change := c.step_change now op
  generalize hears : c.heard? op = heard at change
  generalize kept : (c.step Breaker.kind now op).2.breaker.state = state
    at change
  generalize noted : (c.step Breaker.kind now op).2.breaker.lastFailure = last
    at change
  cases change with
  | kept heard unfailed unreset unforced waits =>
      exact ⟨failure, ⟨kept.trans since.opened, noted.trans since.last⟩,
        Nat.le_refl _, past⟩
  | trial opened granted =>
      rcases eq_ask_of_heard hears with asked | other | other
      · rw [refused asked] at granted
        cases granted
      · cases other
      · cases other
  | recovered halfOpen =>
      rw [since.opened] at halfOpen
      cases halfOpen
  | failed state stays ends =>
      exact ⟨now, ⟨kept.trans (stays since.opened), noted⟩, past,
        Nat.le_refl _⟩
  | reset =>
      rcases eq_ask_of_heard hears with asked | other | other
      · exact absurd asked unreset
      · cases other
      · cases other
  | forced => exact ⟨now, ⟨kept, noted⟩, past, Nat.le_refl _⟩

theorem granted_step_of_early (since : c.breaker.OpenSince failure)
    (early : op = .ask .acquire →
      now ≤ failure + c.breaker.config.resetTimeout) :
    (c.step Breaker.kind now op).2.granted = c.granted := by
  rcases c.gives_or_givesNone now op with given | none
  · have granted := given.granted
    rw [since.grants_eq_false (early given.asked)] at granted
    cases granted
  · exact none.count

theorem openSince_run {earlier rest : List (Nat × ClientOp)}
    (since : c.breaker.OpenSince failure) {start : Nat} (past : failure ≤ start)
    (inOrder : Clock.InOrder start (earlier ++ rest))
    (unreset : ∀ now, (now, .ask .reset) ∉ earlier)
    (none : (c.run Breaker.kind earlier).2.granted = c.granted) :
    ∃ next instant, (c.run Breaker.kind earlier).2.breaker.OpenSince next ∧
      failure ≤ next ∧ next ≤ instant ∧ Clock.InOrder instant rest := by
  -- The rest is carried along in order, to be taken up again from there.
  induction earlier generalizing c failure start with
  | nil => exact ⟨failure, start, since, Nat.le_refl _, past, inOrder⟩
  | cons event others ih =>
      obtain ⟨now, op⟩ := event
      obtain ⟨passed, inOrder⟩ := inOrder
      let next := (c.step Breaker.kind now op).2
      have none : (next.run Breaker.kind others).2.granted = c.granted := none
      have first : c.granted ≤ next.granted := granted_le_step c now op
      have second := granted_le_run next others
      have here : next.granted = c.granted := by omega
      obtain ⟨again, still, later, before⟩ :=
        openSince_step since (Nat.le_trans past passed)
          (fun same => unreset now (same ▸ List.mem_cons_self)) here
      obtain ⟨last, instant, found, after, present, inOrder⟩ :=
        ih still before inOrder
          (fun now member => unreset now (List.mem_cons_of_mem _ member))
          (none.trans here.symm)
      exact ⟨last, instant, found, Nat.le_trans later after, present, inOrder⟩

theorem granted_run_of_early {ops : List (Nat × ClientOp)}
    (since : c.breaker.OpenSince failure) {start : Nat} (past : failure ≤ start)
    (inOrder : Clock.InOrder start ops)
    (unreset : ∀ now, (now, .ask .reset) ∉ ops)
    (early : ∀ now, (now, .ask .acquire) ∈ ops →
      now ≤ failure + c.breaker.config.resetTimeout) :
    (c.run Breaker.kind ops).2.granted = c.granted := by
  induction ops generalizing c failure start with
  | nil => rfl
  | cons event others ih =>
      obtain ⟨now, op⟩ := event
      obtain ⟨passed, inOrder⟩ := inOrder
      have none := granted_step_of_early since
        (fun same => early now (same ▸ List.mem_cons_self))
      obtain ⟨next, still, later, before⟩ :=
        openSince_step since (Nat.le_trans past passed)
          (fun same => unreset now (same ▸ List.mem_cons_self)) none
      have rest := ih still before inOrder
        (fun now member => unreset now (List.mem_cons_of_mem _ member))
        (by
          intro now member
          have limit := early now (List.mem_cons_of_mem _ member)
          rw [step_config]
          omega)
      exact rest.trans none

/-- A breaker that has opened stays open, gives no permit and runs no operation
until its reset timeout has passed since then, whatever else it hears, unless it
is reset. As long as it has given no permit it is still open, and whenever an
attempt would be granted, it would have been granted at that instant before. -/
theorem opened_admits_nothing_early (opens : c.Opens opening op)
    {earlier later : List (Nat × ClientOp)}
    (inOrder : Clock.InOrder opening (earlier ++ later))
    (unreset : ∀ now, (now, .ask .reset) ∉ earlier ++ later) :
    let opened := (c.step Breaker.kind opening op).2
    let during := (opened.run Breaker.kind earlier).2
    let after := (during.run Breaker.kind later).2
    let edge := opening + c.breaker.config.resetTimeout
    ((∀ now, (now, .ask .acquire) ∈ earlier → now ≤ edge) →
      during.breaker.state = .opened ∧ during.granted = opened.granted ∧
      (∀ now ≤ edge, during.Refuses now) ∧
      ∀ (g : Gate) (dependency : String) (result : Except String String),
        g.registry.get? dependency = some during.breaker →
        g.now ≤ edge →
          ∃ circuit, (Session.callThrough g dependency result).1 =
            .reply (.refused circuit)) ∧
    (after.granted = opened.granted →
      after.breaker.state = .opened ∧
      ∀ now, after.Admits now → during.Admits now) := by
  intro opened during after edge
  have config : opened.breaker.config = c.breaker.config :=
    step_config c opening op
  have sinceConfig : during.breaker.config = c.breaker.config :=
    (run_config opened earlier).trans config
  have before : ∀ now, (now, ClientOp.ask .reset) ∉ earlier :=
    fun now member => unreset now (List.mem_append_left _ member)
  have sofar := opens.openSince
  constructor
  · intro early
    have none : during.granted = opened.granted :=
      granted_run_of_early sofar (Nat.le_refl opening)
        (Clock.inOrder_of_append_left inOrder) before
        (fun now member => config ▸ early now member)
    obtain ⟨failure, instant, since, notBefore, -, -⟩ :=
      openSince_run sofar (Nat.le_refl opening) inOrder before none
    have refused : ∀ now ≤ edge, during.breaker.grants now = false := by
      intro now soon
      apply since.grants_eq_false
      rw [sinceConfig]
      omega
    refine ⟨since.opened, none, ?_, ?_⟩
    · intro now soon
      exact refuses_of_not_grants (refused now soon)
    · intro g dependency result found soon
      have wait : g.grants dependency = false := by
        rw [Gate.grants, found]
        exact refused g.now soon
      obtain ⟨b, circuit, gate, -, asked, -⟩ := Gate.acquire_of_refused wait
      refine ⟨circuit, ?_⟩
      rw [Session.callThrough, asked]
  · intro none
    have first : opened.granted ≤ during.granted :=
      granted_le_run opened earlier
    have second : during.granted ≤ after.granted :=
      granted_le_run during later
    have early : during.granted = opened.granted := by omega
    have late : after.granted = during.granted := by omega
    obtain ⟨failure, instant, since, -, past, inOrder⟩ :=
      openSince_run sofar (Nat.le_refl opening) inOrder before early
    have since : during.breaker.OpenSince failure := since
    rw [← List.append_nil later] at inOrder
    obtain ⟨last, -, found, notEarlier, -, -⟩ :=
      openSince_run since past inOrder
        (fun now member => unreset now (List.mem_append_right _ member)) late
    have found : after.breaker.OpenSince last := found
    refine ⟨found.opened, ?_⟩
    intro now
    have same : after.breaker.config = during.breaker.config :=
      run_config during later
    rw [admits_iff, admits_iff, found.grants_iff, since.grants_iff, same]
    omega

/-- Two permits are out when a failure trips the breaker. The other one comes
back as a success, and the breaker is forced open at the last instant at which
an attempt is still refused: the attempt after it is refused too, and so is any
other of that instant. -/
theorem opened_admits_nothing_early_forced_again :
    let before : Clients Breaker :=
      (Clients.run Breaker.kind
        ⟨{ dependency := "a", config := ⟨1, 100, 1000⟩ }, 0, []⟩
        [(0, .ask .acquire), (1, .ask .acquire)]).2
    let earlier : List (Nat × ClientOp) :=
      [(10, .resolve 0 .success), (20, .ask .recordFailure),
        (50, .ask .acquire), (60, .ask .snapshot), (105, .ask .forceOpen),
        (105, .ask .acquire)]
    before.Opens 5 (.resolve 1 .failure) ∧ Clock.InOrder 5 (earlier ++ []) ∧
    (∀ now, (now, .ask .reset) ∉ earlier ++ []) ∧
    (((before.step Breaker.kind 5 (.resolve 1 .failure)).2.run
      Breaker.kind earlier).2).Refuses 105 := by
  intro before earlier
  have opens : before.Opens 5 (.resolve 1 .failure) :=
    ⟨.inl (by decide), by decide⟩
  have inOrder : Clock.InOrder 5 (earlier ++ []) := by decide
  have unreset : ∀ now, (now, ClientOp.ask .reset) ∉ earlier ++ [] := by
    simp [earlier]
  obtain ⟨stays, -⟩ := opened_admits_nothing_early opens inOrder unreset
  obtain ⟨-, -, refused, -⟩ := stays (by simp [earlier, before])
  exact ⟨opens, inOrder, unreset, refused 105 (by decide)⟩

end Clients

end Tollgate
