import Tollgate.Proofs.Session.Steps
import Tollgate.Proofs.Spend.Tenant

/-!
Tenants who share a gate. What one of them is answered does not depend on what
the others ask of the ledger, but for the ids of periods, which all tenants get
from one counter.
-/

namespace Tollgate

namespace Step

def tenant? : Step → Option String
  | reserve tenant _ | rollback tenant _ | refund tenant _ _
  | budgetStatus tenant | spendSnapshot tenant | limitFor tenant
  | keyFor tenant => some tenant
  | _ => none

/-- It is not about another tenant's budget. -/
def mayConcern (tenant : String) (step : Step) : Bool :=
  step.tenant?.all (· == tenant)

/-- An operation of the ledger, or something that happens to the ledger and
leaves the store's keys as they are. -/
def IsLedgerStep (keyPrefix : String) : Step → Prop
  | advance _ | setOutage _ | reserve _ _ | rollback _ _ | refund _ _ _
  | budgetStatus _ | spendSnapshot _ | limitFor _ | keyFor _ | health => True
  | updateBudget change => change.keyPrefix.getD keyPrefix = keyPrefix
  | _ => False

def renamed (rename : Nat → Nat) : Step → Step
  | refund tenant cost period => refund tenant cost (rename period)
  | step => step

end Step

def Answer.renamed (rename : Nat → Nat) : Answer → Answer
  | reservation r => reservation (r.renamed rename)
  | answer => answer

namespace Session

/-! Answers under other ids -/

theorem answerOf_reservation (rename : Nat → Nat)
    (result : Except LedgerError Reservation) :
    answerOf .reservation id (result.map (·.renamed rename)) =
      (answerOf .reservation id result).renamed rename := by
  cases result with
  | error error => rfl
  | ok reservation => rfl

theorem answerOf_renamed {α ε : Type} {answer : α → Answer}
    (rename : Nat → Nat) (unnamed : ∀ a, (answer a).renamed rename = answer a)
    (error : ε → LedgerError) (result : Except ε α) :
    (answerOf answer error result).renamed rename =
      answerOf answer error result := by
  cases result with
  | error e => rfl
  | ok a => exact unnamed a

variable {s t : Session} {tenant keyPrefix : String} {cost : Float}
  {step : Step} {pairs : Pairing}

/-! Steps about one tenant -/

/-- No time passes, and something is written under the tenant's key at most. -/
structure Serves (tenant : String) (s after : Session) : Prop where
  now : after.gate.now = s.gate.now
  ledger : s.gate.ledger.Serves s.gate.now tenant after.gate.ledger

theorem serves_reserve (s : Session) (tenant : String) (cost : Float) :
    s.Serves tenant (s.reserve tenant cost).2 := by
  rw [reserve_eq]
  exact ⟨rfl, .reserve _ _ _ _⟩

theorem serves_release (s : Session) (tenant : String) (cost : Float)
    (period : Option Nat) :
    s.Serves tenant (s.release tenant cost period).2 := by
  rw [release_eq]
  exact ⟨rfl, .release _ _ _ _ _⟩

theorem serves_budgetStatus (s : Session) (tenant : String) :
    s.Serves tenant (s.step (.budgetStatus tenant)).2 :=
  ⟨rfl, .status _ _ _⟩

theorem serves_spendSnapshot (s : Session) (tenant : String) :
    s.Serves tenant (s.spendSnapshot tenant).2 := by
  rw [spendSnapshot_eq]
  exact ⟨rfl, .snapshot _ _ _⟩

theorem serves_step (s : Session) (about : step.tenant? = some tenant) :
    s.Serves tenant (s.step step).2 := by
  cases step with
  | reserve who cost =>
      cases about
      exact s.serves_reserve tenant cost
  | rollback who cost =>
      cases about
      exact s.serves_release tenant cost none
  | refund who cost period =>
      cases about
      exact s.serves_release tenant cost (some period)
  | budgetStatus who =>
      cases about
      exact s.serves_budgetStatus tenant
  | spendSnapshot who =>
      cases about
      exact s.serves_spendSnapshot tenant
  | limitFor who => exact ⟨rfl, .refl _ _ _⟩
  | keyFor who => exact ⟨rfl, .refl _ _ _⟩
  | _ => cases about

/-- The tenant cannot tell the sessions apart, but by ids of periods. -/
structure Alike (keyPrefix tenant : String) (pairs : Pairing)
    (s t : Session) : Prop where
  now : t.gate.now = s.gate.now
  keys : s.gate.ledger.budget.keyPrefix = keyPrefix
  ledgers : s.gate.ledger.Alike tenant pairs t.gate.ledger

namespace Alike

theorem served {who : String} {more : Pairing} {before after : Session}
    (alike : Alike keyPrefix tenant pairs s t) (serves : s.Serves who after)
    (stays : before.gate.now = t.gate.now)
    (ledgers : after.gate.ledger.Alike tenant more before.gate.ledger) :
    Alike keyPrefix tenant more after before where
  now := stays.trans (alike.now.trans serves.now.symm)
  keys := serves.ledger.budget ▸ alike.keys
  ledgers := ledgers

theorem reserve (alike : Alike keyPrefix tenant pairs s t) (cost : Float) :
    ∃ more : Pairing, (∀ pair ∈ pairs, pair ∈ more) ∧
      Alike keyPrefix tenant more (s.reserve tenant cost).2
        (t.reserve tenant cost).2 ∧
      ∀ rename, more.Follows rename →
        (t.reserve tenant cost).1 =
          (s.reserve tenant cost).1.renamed rename := by
  obtain ⟨more, grows, ledgers, answers⟩ :=
    alike.ledgers.reserve s.gate.now cost
  have serves := s.serves_reserve tenant cost
  rw [reserve_eq] at serves
  rw [reserve_eq, reserve_eq, alike.now]
  refine ⟨more, grows, alike.served serves rfl ledgers, ?_⟩
  intro rename follows
  rw [answers rename follows, answerOf_reservation]

theorem release (alike : Alike keyPrefix tenant pairs s t) (cost : Float)
    (period : Option Nat) :
    ∃ after,
      Alike keyPrefix tenant pairs (s.release tenant cost period).2 after ∧
      ∀ rename, pairs.Follows rename →
        t.release tenant cost (period.map rename) =
          ((s.release tenant cost period).1.renamed rename, after) := by
  obtain ⟨ledger, ledgers, answers⟩ :=
    alike.ledgers.release s.gate.now cost period
  have serves := s.serves_release tenant cost period
  rw [release_eq] at serves ⊢
  refine ⟨{ t with gate := { t.gate with ledger } },
    alike.served serves rfl ledgers, ?_⟩
  intro rename follows
  rw [release_eq, alike.now, answers rename follows,
    answerOf_renamed _ fun _ => rfl]

theorem budgetStatus (alike : Alike keyPrefix tenant pairs s t) :
    (t.step (.budgetStatus tenant)).1 = (s.step (.budgetStatus tenant)).1 ∧
      Alike keyPrefix tenant pairs (s.step (.budgetStatus tenant)).2
        (t.step (.budgetStatus tenant)).2 := by
  obtain ⟨status, ledgers⟩ := alike.ledgers.status s.gate.now
  have serves := s.serves_budgetStatus tenant
  rw [budgetStatus_eq] at serves
  rw [budgetStatus_eq, budgetStatus_eq, alike.now]
  exact ⟨congrArg Answer.budgetStatus status, alike.served serves rfl ledgers⟩

theorem spendSnapshot (alike : Alike keyPrefix tenant pairs s t) :
    (∀ rename, (t.spendSnapshot tenant).1 =
        (s.spendSnapshot tenant).1.renamed rename) ∧
      Alike keyPrefix tenant pairs (s.spendSnapshot tenant).2
        (t.spendSnapshot tenant).2 := by
  obtain ⟨snapshot, ledgers⟩ := alike.ledgers.snapshot s.gate.now
  have serves := s.serves_spendSnapshot tenant
  rw [spendSnapshot_eq] at serves
  rw [spendSnapshot_eq, spendSnapshot_eq, alike.now]
  refine ⟨fun rename => ?_, alike.served serves rfl ledgers⟩
  rw [answerOf_renamed _ fun _ => rfl, snapshot]

/-- Once the ids of its refunds are renamed, the tenant is answered alike. -/
theorem step_own (alike : Alike keyPrefix tenant pairs s t)
    (about : step.tenant? = some tenant) :
    ∃ (more : Pairing) (after : Session), (∀ pair ∈ pairs, pair ∈ more) ∧
      Alike keyPrefix tenant more (s.step step).2 after ∧
      ∀ rename, more.Follows rename →
        t.step (step.renamed rename) =
          ((s.step step).1.renamed rename, after) := by
  cases step with
  | reserve who cost =>
      cases about
      obtain ⟨more, grows, after, answers⟩ := alike.reserve cost
      exact ⟨more, _, grows, after, fun rename follows =>
        Prod.ext (answers rename follows) rfl⟩
  | rollback who cost =>
      cases about
      obtain ⟨after, ends, answers⟩ := alike.release cost none
      exact ⟨pairs, after, fun _ => id, ends, answers⟩
  | refund who cost period =>
      cases about
      obtain ⟨after, ends, answers⟩ := alike.release cost (some period)
      exact ⟨pairs, after, fun _ => id, ends, answers⟩
  | budgetStatus who =>
      cases about
      obtain ⟨status, after⟩ := alike.budgetStatus
      exact ⟨pairs, _, fun _ => id, after, fun _ _ => Prod.ext status rfl⟩
  | spendSnapshot who =>
      cases about
      obtain ⟨snapshot, after⟩ := alike.spendSnapshot
      exact ⟨pairs, _, fun _ => id, after, fun rename _ =>
        Prod.ext (snapshot rename) rfl⟩
  | limitFor who =>
      cases about
      refine ⟨pairs, t, fun _ => id, alike, fun _ _ => ?_⟩
      have same := alike.ledgers.limitFor tenant
      exact Prod.ext (congrArg Answer.amount same) rfl
  | keyFor who =>
      cases about
      refine ⟨pairs, t, fun _ => id, alike, fun _ _ => ?_⟩
      have same := alike.ledgers.keyFor tenant
      exact Prod.ext (congrArg Answer.text same) rfl
  | _ => cases about

theorem step_shared (alike : Alike keyPrefix tenant pairs s t)
    (shared : step.tenant? = none) (ledger : step.IsLedgerStep keyPrefix) :
    ∃ after, Alike keyPrefix tenant pairs (s.step step).2 after ∧
      ∀ rename, t.step (step.renamed rename) =
        ((s.step step).1.renamed rename, after) := by
  cases step with
  | advance duration =>
      refine ⟨(t.step (.advance duration)).2, ?_, fun _ => rfl⟩
      exact ⟨congrArg (· + duration) alike.now, alike.keys, alike.ledgers⟩
  | setOutage outage =>
      refine ⟨(t.step (.setOutage outage)).2, ?_, fun _ => rfl⟩
      exact ⟨alike.now, alike.keys, alike.ledgers.budget, rfl,
        alike.ledgers.stores⟩
  | health =>
      have same : t.gate.ledger.health = s.gate.ledger.health := by
        unfold Ledger.health
        rw [alike.ledgers.outage]
      refine ⟨t, ?_, fun rename => ?_⟩
      · rw [health_eq]
        exact alike
      · change t.step .health = _
        rw [health_eq, health_eq, answerOf_renamed _ fun _ => rfl, same]
  | updateBudget change =>
      have budget : change.apply t.gate.ledger.budget =
          change.apply s.gate.ledger.budget :=
        congrArg change.apply alike.ledgers.budget
      have keys : (change.apply s.gate.ledger.budget).keyPrefix =
          keyPrefix := by
        rw [← alike.keys] at ledger
        exact ledger.trans alike.keys
      refine ⟨(t.step (.updateBudget change)).2, ?_, fun _ => Prod.ext ?_ rfl⟩
      · refine ⟨alike.now, keys, ?_⟩
        change Ledger.Alike tenant pairs
          (s.gate.ledger.update (change.apply s.gate.ledger.budget)).2
          (t.gate.ledger.update (change.apply t.gate.ledger.budget)).2
        rw [budget]
        exact alike.ledgers.update (keys.trans alike.keys.symm)
      · exact congrArg Answer.budget budget
  | reserve _ _ | rollback _ _ | refund _ _ _ | budgetStatus _
  | spendSnapshot _ | limitFor _ | keyFor _ => cases shared
  | _ => exact ledger.elim

theorem step_mine (alike : Alike keyPrefix tenant pairs s t)
    (mine : step.mayConcern tenant) (ledger : step.IsLedgerStep keyPrefix) :
    ∃ (more : Pairing) (after : Session), (∀ pair ∈ pairs, pair ∈ more) ∧
      Alike keyPrefix tenant more (s.step step).2 after ∧
      ∀ rename, more.Follows rename →
        t.step (step.renamed rename) =
          ((s.step step).1.renamed rename, after) := by
  cases about : step.tenant? with
  | none =>
      obtain ⟨after, ends, answers⟩ := alike.step_shared about ledger
      exact ⟨pairs, after, fun _ => id, ends, fun rename _ => answers rename⟩
  | some who =>
      have own : who = tenant := by
        simpa [Step.mayConcern, about] using mine
      rw [own] at about
      exact alike.step_own about

theorem step_other (alike : Alike keyPrefix tenant pairs s t)
    (foreign : ¬ step.mayConcern tenant) :
    Alike keyPrefix tenant pairs (s.step step).2 t := by
  cases about : step.tenant? with
  | none => simp [Step.mayConcern, about] at foreign
  | some who =>
      have different : who ≠ tenant := by
        simpa [Step.mayConcern, about] using foreign
      have serves := s.serves_step about
      exact alike.served serves rfl
        (alike.ledgers.serves_other serves.ledger different)

theorem rising (alike : Alike keyPrefix tenant pairs s t) : pairs.Rising :=
  alike.ledgers.stores.rising

theorem run (alike : Alike keyPrefix tenant pairs s t) (steps : List Step)
    (ledger : ∀ step ∈ steps, step.IsLedgerStep keyPrefix) :
    ∃ rename : Equiv.Perm Nat, pairs.Follows rename ∧
      t.transcript
          ((steps.filter (·.mayConcern tenant)).map (·.renamed rename)) =
        ((s.transcript steps).filter (·.1.mayConcern tenant)).map
          (Prod.map (·.renamed rename) (·.renamed rename)) := by
  induction steps generalizing pairs s t with
  | nil =>
      -- Only here are all pairs known that the renaming has to follow.
      obtain ⟨rename, follows⟩ := alike.rising.exists_follows
      exact ⟨rename, follows, rfl⟩
  | cons step rest ih =>
      have now := ledger step List.mem_cons_self
      have later : ∀ step ∈ rest, step.IsLedgerStep keyPrefix :=
        fun step member => ledger step (List.mem_cons_of_mem _ member)
      rw [transcript_cons]
      by_cases mine : step.mayConcern tenant
      · obtain ⟨more, after, grows, alike, answers⟩ := alike.step_mine mine now
        obtain ⟨rename, follows, same⟩ := ih alike later
        refine ⟨rename, fun pair member => follows pair (grows pair member), ?_⟩
        rw [List.filter_cons, if_pos mine, List.filter_cons, if_pos mine,
          List.map_cons, List.map_cons, transcript_cons, answers rename follows,
          same]
        rfl
      · obtain ⟨rename, follows, same⟩ := ih (alike.step_other mine) later
        refine ⟨rename, follows, ?_⟩
        rw [List.filter_cons, if_neg mine, List.filter_cons, if_neg mine]
        exact same

end Alike

/-- Without what the other tenants ask of the ledger, a tenant is answered the
same, its charges and refunds naming the same periods by other ids. -/
theorem tenants_isolated (settings : Settings) (tenant : String)
    (steps : List Step)
    (ledger : ∀ step ∈ steps, step.IsLedgerStep settings.budget.keyPrefix) :
    let s := ofSettings settings
    ∃ rename : Equiv.Perm Nat,
      s.transcript
          ((steps.filter (·.mayConcern tenant)).map (·.renamed rename)) =
        ((s.transcript steps).filter (·.1.mayConcern tenant)).map
          (Prod.map (·.renamed rename) (·.renamed rename)) := by
  intro s
  have alike : Alike settings.budget.keyPrefix tenant [] s s :=
    ⟨rfl, rfl, rfl, rfl, SpendStore.alike_empty _⟩
  obtain ⟨rename, -, same⟩ := alike.run steps ledger
  exact ⟨rename, same⟩

/-- The other tenant comes first, so the charge that is taken back here was in
the period 1. -/
theorem tenants_isolated_of_two :
    let s := ofSettings {}
    let steps : List Step := [.reserve "globex" 3, .reserve "acme" 40,
      .refund "acme" 40 1, .setOutage none, .reserve "globex" 7,
      .spendSnapshot "acme"]
    ∃ rename : Equiv.Perm Nat,
      s.transcript
          ((steps.filter (·.mayConcern "acme")).map (·.renamed rename)) =
        ((s.transcript steps).filter (·.1.mayConcern "acme")).map
          (Prod.map (·.renamed rename) (·.renamed rename)) :=
  tenants_isolated {} "acme" _ (by simp [Step.IsLedgerStep])

end Session

end Tollgate
