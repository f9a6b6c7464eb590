import Tollgate.Proofs.Traffic.Effect

/-!
The sums over the admissions of a tenant, and how they move with the tenant's
entry in the store.
-/

namespace Tollgate

namespace Ticket

variable {terms : Terms} {test other : Ticket → Bool} {ticket : Ticket}

theorem worth_of_false (out : test ticket = false) : ticket.worth test = 0 := by
  simp [worth, out]

theorem worth_of_true (counts : test ticket = true) :
    ticket.worth test = Micros.ofAmount ticket.hold.cost := by
  simp [worth, counts]

theorem worth_nonneg (accepted : isAmount ticket.hold.cost) :
    0 ≤ ticket.worth test := by
  have nonneg := Micros.ofAmount_nonneg accepted
  unfold worth
  split
  · exact nonneg
  · exact Int.le_refl 0

theorem worth_le (accepted : isAmount ticket.hold.cost)
    (weaker : test ticket → other ticket) :
    ticket.worth test ≤ ticket.worth other := by
  by_cases counts : test ticket
  · have first := worth_of_true counts
    have second := worth_of_true (weaker counts)
    omega
  · rw [worth_of_false (by simpa using counts)]
    exact worth_nonneg accepted

theorem total_append (first second : List Ticket) :
    total test (first ++ second) = total test first + total test second := by
  induction first with
  | nil => exact (Int.zero_add _).symm
  | cons ticket rest ih =>
      simp only [List.cons_append, total, ih]
      omega

theorem total_set {tickets : List Ticket} {i : Nat} {old new : Ticket}
    (there : tickets[i]? = some old) :
    total test (tickets.set i new) =
      total test tickets - old.worth test + new.worth test := by
  induction tickets generalizing i with
  | nil => cases there
  | cons head rest ih =>
      cases i with
      | zero =>
          cases there
          simp only [List.set_cons_zero, total]
          omega
      | succ i =>
          simp only [List.set_cons_succ, total, ih there]
          omega

theorem total_eq_zero {tickets : List Ticket}
    (none : ∀ ticket ∈ tickets, test ticket = false) :
    total test tickets = 0 := by
  induction tickets with
  | nil => rfl
  | cons head rest ih =>
      rw [total, worth_of_false (none head List.mem_cons_self), Int.zero_add]
      apply ih
      intro ticket member
      exact none ticket (List.mem_cons_of_mem _ member)

theorem total_nonneg {tickets : List Ticket}
    (accepted : ∀ ticket ∈ tickets, isAmount ticket.hold.cost) :
    0 ≤ total test tickets := by
  induction tickets with
  | nil => exact Int.le_refl 0
  | cons head rest ih =>
      have first : 0 ≤ head.worth test :=
        worth_nonneg (accepted head List.mem_cons_self)
      have others := ih fun ticket member =>
        accepted ticket (List.mem_cons_of_mem _ member)
      rw [total]
      omega

theorem total_le {tickets : List Ticket}
    (accepted : ∀ ticket ∈ tickets, isAmount ticket.hold.cost)
    (weaker : ∀ ticket, test ticket → other ticket) :
    total test tickets ≤ total other tickets := by
  induction tickets with
  | nil => exact Int.le_refl 0
  | cons head rest ih =>
      have first := worth_le (accepted head List.mem_cons_self) (weaker head)
      have others := ih fun ticket member =>
        accepted ticket (List.mem_cons_of_mem _ member)
      rw [total, total]
      omega

theorem total_congr {tickets : List Ticket}
    (same : ∀ ticket ∈ tickets, test ticket = other ticket) :
    total test tickets = total other tickets := by
  induction tickets with
  | nil => rfl
  | cons head rest ih =>
      have first := same head List.mem_cons_self
      have others := ih fun ticket member =>
        same ticket (List.mem_cons_of_mem _ member)
      rw [total, total, worth, worth, first, others]

theorem total_split {first second : Ticket → Bool} {tickets : List Ticket}
    (split : ∀ ticket ∈ tickets,
      ticket.worth test = ticket.worth first + ticket.worth second) :
    total test tickets = total first tickets + total second tickets := by
  induction tickets with
  | nil => rfl
  | cons head rest ih =>
      have here := split head List.mem_cons_self
      have others := ih fun ticket member =>
        split ticket (List.mem_cons_of_mem _ member)
      rw [total, total, total, here, others]
      omega

theorem total_continues {tickets later : List Ticket}
    (continues : List.Forall₂ (Continues terms) tickets later)
    (same : ∀ old new, Continues terms old new → test new = test old) :
    total test later = total test tickets := by
  induction continues with
  | nil => rfl
  | cons first rest ih =>
      rename_i old new olds news
      rw [total, total, ih, worth, worth, same old new first, first.hold]

end Ticket

namespace Traffic

variable {terms : Terms} {t after : Traffic} {test other : Ticket → Bool}

theorem sumOf_append {ticket : Ticket}
    (tickets : after.tickets = t.tickets ++ [ticket]) :
    after.sumOf test = t.sumOf test + ticket.worth test := by
  rw [sumOf, sumOf, tickets, Ticket.total_append]
  simp only [Ticket.total, Int.add_zero]

theorem sumOf_append_le {ticket : Ticket}
    (tickets : after.tickets = t.tickets ++ [ticket])
    (accepted : isAmount ticket.hold.cost) :
    after.sumOf test ≤ t.sumOf test + Micros.ofAmount ticket.hold.cost := by
  have nonneg := Micros.ofAmount_nonneg accepted
  rw [sumOf_append tickets, Ticket.worth]
  split <;> omega

theorem sumOf_refunded {i j : Nat} {ticket : Ticket} {refund : Refund}
    (there : t.tickets[i]? = some ticket)
    (begun : ticket.refunds[j]? = some refund)
    (tickets : after.tickets = t.tickets.set i (ticket.setRefund j .answered))
    (gone : ∀ ticket, ticket.isRefunded = true → test ticket = false) :
    after.sumOf test = t.sumOf test - ticket.worth test := by
  have nothing := gone _ (Ticket.isRefunded_setRefund begun)
  rw [sumOf, sumOf, tickets, Ticket.total_set there,
    Ticket.worth_of_false nothing, Int.add_zero]

theorem sumOf_setRefund {i j : Nat} {state : RefundState} {ticket : Ticket}
    (there : t.tickets[i]? = some ticket)
    (tickets : after.tickets = t.tickets.set i (ticket.setRefund j state))
    (same : test (ticket.setRefund j state) = test ticket) :
    after.sumOf test = t.sumOf test := by
  have worth : (ticket.setRefund j state).worth test = ticket.worth test := by
    rw [Ticket.worth, Ticket.worth, same]
    rfl
  rw [sumOf, sumOf, tickets, Ticket.total_set there, worth]
  omega

theorem sumOf_continues
    (tickets : List.Forall₂ (Ticket.Continues terms) t.tickets after.tickets)
    (same : ∀ old new, Ticket.Continues terms old new → test new = test old) :
    after.sumOf test = t.sumOf test :=
  Ticket.total_continues tickets same

theorem Sound.sumOf_nonneg (sound : t.Sound terms) : 0 ≤ t.sumOf test :=
  Ticket.total_nonneg fun ticket member =>
    (sound.tickets ticket member).accepted

theorem Sound.sumOf_of_fresh (sound : t.Sound terms) {period : Nat}
    (fresh : t.gate.ledger.store.nextPeriod ≤ period)
    (of : ∀ ticket, test ticket → ticket.hold.period = period) :
    t.sumOf test = 0 := by
  apply Ticket.total_eq_zero
  intro ticket present
  have given := (sound.tickets ticket present).given
  by_contra counts
  have current := of ticket (by simpa using counts)
  omega

theorem Sound.sumOf_le (sound : t.Sound terms)
    (weaker : ∀ ticket, test ticket → other ticket) :
    t.sumOf test ≤ t.sumOf other :=
  Ticket.total_le (fun ticket member => (sound.tickets ticket member).accepted)
    weaker

/-! Soundness goes on from move to move. -/

theorem valid_of_continues {nextPeriod : Nat} {tickets later : List Ticket}
    (continues : List.Forall₂ (Ticket.Continues terms) tickets later)
    (valid : ∀ ticket ∈ tickets, ticket.Valid terms nextPeriod) :
    ∀ ticket ∈ later, ticket.Valid terms nextPeriod := by
  induction continues with
  | nil => exact nofun
  | cons first rest ih =>
      rename_i old new olds news
      intro ticket member
      have before := valid old List.mem_cons_self
      rcases List.mem_cons.mp member with rfl | later
      · refine ⟨first.sound before.sound, ?_, ?_⟩
        · rw [first.hold]
          exact before.accepted
        · rw [first.hold]
          exact before.given
      · exact ih (fun ticket inside =>
          valid ticket (List.mem_cons_of_mem _ inside)) ticket later

theorem Effect.sound (effect : Effect terms t after) (sound : t.Sound terms) :
    after.Sound terms := by
  cases effect with
  | kept gate tickets =>
      refine ⟨gate.obeys sound.gate, gate.sound sound.store, ?_⟩
      rw [gate.nextPeriod]
      exact valid_of_continues tickets sound.tickets
  | charged ticket answer accepted fine period allowed unrefunded tickets now
      obeys charged =>
      have nonneg := Micros.ofAmount_nonneg accepted
      refine ⟨obeys sound.gate, charged.sound sound.store nonneg, ?_⟩
      intro one member
      rw [tickets] at member
      rcases List.mem_append.mp member with before | here
      · have valid := sound.tickets one before
        have given := Nat.lt_of_lt_of_le valid.given charged.grows
        exact { valid with given }
      · obtain rfl := List.mem_singleton.mp here
        refine ⟨fine, accepted, ?_⟩
        rw [period]
        exact charged.given sound.store
  | refunded i j ticket refund there begun pending tickets now obeys store =>
      have valid := sound.tickets ticket (List.mem_of_getElem? there)
      refine ⟨obeys sound.gate, ?_, ?_⟩
      · rw [store]
        exact sound.store.release _ _
      · intro one member
        rw [store, SpendStore.release_nextPeriod]
        rw [tickets] at member
        rcases List.mem_or_eq_of_mem_set member with before | rfl
        · exact sound.tickets one before
        · exact ⟨valid.sound.setRefund begun pending nofun, valid.accepted,
            valid.given⟩

theorem run_nil (t : Traffic) : t.run [] = t := rfl

theorem run_cons (t : Traffic) (m : Move) (moves : List Move) :
    t.run (m :: moves) = (t.move m).run moves := rfl

theorem run_append (t : Traffic) (first second : List Move) :
    t.run (first ++ second) = (t.run first).run second :=
  List.foldl_append

/-- What each effect of a sound state keeps holds after every run. -/
theorem Sound.run_invariant (sound : t.Sound terms) (holds : Traffic → Prop)
    (first : holds t)
    (step : ∀ {t after}, t.Sound terms → Effect terms t after → holds t →
      holds after)
    {moves : List Move} (obey : ∀ m ∈ moves, m.Obeys terms) :
    holds (t.run moves) := by
  induction moves generalizing t with
  | nil => exact first
  | cons m rest ih =>
      have effect := move_effect sound (obey m List.mem_cons_self)
      apply ih (effect.sound sound) (step sound effect first)
      intro later member
      exact obey later (List.mem_cons_of_mem _ member)

theorem Sound.run (sound : t.Sound terms) {moves : List Move}
    (obey : ∀ m ∈ moves, m.Obeys terms) : (t.run moves).Sound terms :=
  sound.run_invariant (·.Sound terms) sound
    (fun sound effect _ => effect.sound sound) obey

/-! The tenant's entry after a move that touches money -/

variable {ticket : Ticket} {tenant : String} {e : SpendEntry}

theorem live?_of_charged {answer : Charge} (before : t.gate.Obeys terms)
    (later : after.gate.Obeys terms) (now : after.gate.now = t.gate.now)
    (charged : t.gate.ledger.store.Charged t.gate.now
      (t.gate.ledger.keyFor ticket.hold.tenant)
      (Micros.ofAmount ticket.hold.cost)
      (Micros.ofAmount (t.gate.ledger.limitFor ticket.hold.tenant))
      answer after.gate.ledger.store)
    (live : after.gate.live? tenant = some e) :
    (ticket.hold.tenant ≠ tenant ∧ t.gate.live? tenant = some e) ∨
      (ticket.hold.tenant = tenant ∧ e.total = answer.total ∧
        e.period = answer.period) := by
  unfold Gate.live? at live ⊢
  rw [before.keyFor later, now] at live
  by_cases same : ticket.hold.tenant = tenant
  · subst same
    exact .inr ⟨rfl, charged.live?_self live⟩
  · refine .inl ⟨same, ?_⟩
    have different : t.gate.ledger.keyFor ticket.hold.tenant ≠
        t.gate.ledger.keyFor tenant :=
      fun keys => same (t.gate.ledger.keyFor_injective keys)
    rw [charged.live?_other different] at live
    exact live

theorem live?_of_refunded (before : t.gate.Obeys terms)
    (later : after.gate.Obeys terms) (now : after.gate.now = t.gate.now)
    (store : after.gate.ledger.store = (t.gate.ledger.store.release t.gate.now
      (t.gate.ledger.keyFor ticket.hold.tenant)
      (Micros.ofAmount ticket.hold.cost) (some ticket.hold.period)).2)
    (live : after.gate.live? tenant = some e) :
    (ticket.hold.tenant ≠ tenant ∧ t.gate.live? tenant = some e) ∨
      (ticket.hold.tenant = tenant ∧ ∃ old, t.gate.live? tenant = some old ∧
        e.period = old.period ∧
        e.total = if old.period = ticket.hold.period then
          max 0 (Micros.sub old.total (Micros.ofAmount ticket.hold.cost))
          else old.total) := by
  unfold Gate.live? at live ⊢
  rw [before.keyFor later, now, store] at live
  by_cases same : ticket.hold.tenant = tenant
  · subst same
    exact .inr ⟨rfl, SpendStore.release_live?_self live⟩
  · refine .inl ⟨same, ?_⟩
    have different : t.gate.ledger.keyFor ticket.hold.tenant ≠
        t.gate.ledger.keyFor tenant :=
      fun keys => same (t.gate.ledger.keyFor_injective keys)
    rw [SpendStore.release_live?_other different] at live
    exact live

/-! Runs that begin with nothing charged -/

structure IsNew (t : Traffic) : Prop where
  entries : t.gate.ledger.store.entries = .empty
  tickets : t.tickets = []

theorem IsNew.live? (new : t.IsNew) (tenant : String) :
    t.gate.live? tenant = none := by
  simp [Gate.live?, SpendStore.live?, new.entries]

theorem IsNew.sound (new : t.IsNew) (obeys : t.gate.Obeys terms) :
    t.Sound terms where
  gate := obeys
  store := by
    intro key e found
    rw [new.entries] at found
    cases found
  tickets := by
    rw [new.tickets]
    exact nofun

end Traffic

end Tollgate
