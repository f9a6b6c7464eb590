import Mathlib.Data.List.Sort
import Tollgate.Proofs.Breaker.Registry

/-!
Dependencies do not meet in a registry. Each has a breaker of its own, and what
that one answers does not depend on operations on others.
-/

namespace Tollgate

namespace RegistryOp

def dependency? : RegistryOp → Option String
  | getOrCreate name | get name | ask name _ | resolve name _ | reset name =>
      some name
  | resetAll | snapshots => none

/-- It is not on another single dependency. -/
def mayConcern (dependency : String) (op : RegistryOp) : Bool :=
  op.dependency?.all (· == dependency)

theorem unheard_of_foreign {dependency : String} {op : RegistryOp}
    (foreign : ¬ op.mayConcern dependency) :
    op.needs dependency = false ∧ op.heard? dependency = none := by
  have other {name : String} (about : op.dependency? = some name) :
      name ≠ dependency := by simpa [mayConcern, about] using foreign
  cases op with
  | getOrCreate name => exact ⟨beq_false_of_ne (other rfl), rfl⟩
  | get name => exact ⟨rfl, rfl⟩
  | ask name op => exact ⟨beq_false_of_ne (other rfl), if_neg (other rfl)⟩
  | resolve name use => exact ⟨rfl, if_neg (other rfl)⟩
  | reset name => exact ⟨rfl, if_neg (other rfl)⟩
  | resetAll => exact absurd rfl foreign
  | snapshots => exact absurd rfl foreign

end RegistryOp

/-- What an answer says of the dependency: its own entry of a report. -/
def RegistryReply.about (dependency : String) : RegistryReply → RegistryReply
  | snapshots list => snapshots (list.filter (·.dependency == dependency))
  | answer => answer

namespace Registry

variable {r t : Registry} {b : Breaker} {dependency : String} {now : Nat}
  {op : RegistryOp}

def transcript (r : Registry) (events : List (Nat × RegistryOp)) :
    List ((Nat × RegistryOp) × RegistryReply) :=
  events.zip (r.run events).1

theorem transcript_cons (r : Registry) (now : Nat) (op : RegistryOp)
    (rest : List (Nat × RegistryOp)) :
    r.transcript ((now, op) :: rest) =
      ((now, op), (r.perform now op).1) ::
        (r.perform now op).2.2.transcript rest := rfl

/-! Reports -/

theorem reportOf_dependencies (listed : List Breaker) (now : Nat) :
    ((reportOf listed now).map (·.dependency)).Perm
      (listed.map (·.dependency)) := by
  have moved := (sortBy_perm (fun a b : BreakerSnapshot =>
    a.dependency ≤ b.dependency) (listed.map fun b => (b.snapshot now).1)).map
    (·.dependency)
  rwa [List.map_map] at moved

section
variable {listed others : List Breaker}
  (apart : (listed.map (·.dependency)).Nodup)
include apart

theorem reportOf_ascending (now : Nat) :
    (reportOf listed now).Pairwise (·.dependency < ·.dependency) := by
  have sorted : (reportOf listed now).Pairwise fun a b =>
      decide (a.dependency ≤ b.dependency) = true := by
    apply sortBy_pairwise
    · intro a b
      simpa using String.le_total a.dependency b.dependency
    · intro a b c before later
      simp only [decide_eq_true_eq] at before later ⊢
      exact String.le_trans before later
  have once : ((reportOf listed now).map (·.dependency)).Nodup :=
    (reportOf_dependencies listed now).nodup_iff.mpr apart
  refine (sorted.and (List.pairwise_map.mp once)).imp ?_
  rintro a b ⟨before, other⟩
  exact Std.lt_of_le_of_ne (of_decide_eq_true before) other

theorem reportOf_perm (moved : others.Perm listed) (now : Nat) :
    reportOf others now = reportOf listed now := by
  have apart' : (others.map (·.dependency)).Nodup :=
    (moved.map (·.dependency)).nodup_iff.mpr apart
  refine List.Perm.eq_of_pairwise ?_ (reportOf_ascending apart' now)
    (reportOf_ascending apart now) ?_
  · intro a b _ _ before behind
    exact absurd behind (String.lt_asymm before)
  · exact ((sortBy_perm _ _).trans (moved.map _)).trans (sortBy_perm _ _).symm

end

/-! Breakers stand under their own dependencies. -/

def Keyed (r : Registry) : Prop :=
  ∀ dependency b, r.get? dependency = some b → b.dependency = dependency

namespace Keyed

theorem found (keyed : r.Keyed) (dependency : String) :
    (r.found dependency).dependency = dependency := by
  cases made : r.get? dependency with
  | none =>
      rw [found_of_none made]
      rfl
  | some b =>
      rw [found_of_some made]
      exact keyed dependency b made

theorem perform (keyed : r.Keyed) (now : Nat) (op : RegistryOp) :
    (r.perform now op).2.2.Keyed := by
  intro dependency after made
  have fresh : (r.fresh dependency).dependency = dependency := rfl
  refine of_get?_perform made fresh (keyed dependency) ?_
  intro b op own
  exact (b.perform_dependency now op).trans own

theorem run (keyed : r.Keyed) (events : List (Nat × RegistryOp)) :
    (r.run events).2.2.Keyed := by
  induction events generalizing r with
  | nil => exact keyed
  | cons event rest ih => exact ih (keyed.perform event.1 event.2)

/-! Its report -/

theorem dependencies (keyed : r.Keyed) :
    r.breakers.values.map (·.dependency) = r.breakers.keys := by
  unfold Assoc.values Assoc.keys
  rw [List.map_map]
  apply List.map_congr_left
  rintro ⟨name, b⟩ member
  exact keyed name b (Assoc.mem_entries_iff.mp member)

theorem apart (keyed : r.Keyed) :
    (r.breakers.values.map (·.dependency)).Nodup := by
  rw [keyed.dependencies]
  exact r.breakers.nodup_keys

theorem mem_snapshots_iff (keyed : r.Keyed) (now : Nat) {name : String} :
    name ∈ (r.snapshots now).1.map (·.dependency) ↔ name ∈ r.breakers.keys := by
  rw [← keyed.dependencies]
  exact (reportOf_dependencies r.breakers.values now).mem_iff

theorem ascending (keyed : r.Keyed) (now : Nat) :
    ((r.snapshots now).1.map (·.dependency)).Pairwise (· < ·) :=
  List.pairwise_map.mpr (reportOf_ascending keyed.apart now)

theorem snapshots_about (keyed : r.Keyed) (now : Nat) (dependency : String) :
    (r.snapshots now).1.filter (·.dependency == dependency) =
      ((r.get? dependency).map fun b => (b.snapshot now).1).toList := by
  change (sortBy _ (r.breakers.values.map _)).filter _ = _
  rw [filter_sortBy]
  · unfold Assoc.values
    rw [List.map_map, List.filter_map]
    have own : r.breakers.entries.filter (fun e => e.2.dependency == dependency) =
        r.breakers.entries.filter (·.1 == dependency) := by
      apply List.filter_congr
      rintro ⟨name, b⟩ member
      rw [keyed name b (Assoc.mem_entries_iff.mp member)]
    refine (congrArg _ (own.trans (Assoc.filter_key _ _))).trans ?_
    unfold get?
    cases r.breakers.get? dependency with
    | none => rfl
    | some b => rfl
  · intro a b one other
    rw [eq_of_beq one, eq_of_beq other]
    exact decide_eq_true (String.le_refl dependency)

theorem exists_of_mem_snapshots (keyed : r.Keyed) {snapshot : BreakerSnapshot}
    (member : snapshot ∈ (r.snapshots now).1) :
    ∃ b, r.get? snapshot.dependency = some b ∧
      snapshot = (b.snapshot now).1 := by
  have own : snapshot ∈
      (r.snapshots now).1.filter (·.dependency == snapshot.dependency) :=
    List.mem_filter.mpr ⟨member, beq_self_eq_true _⟩
  rw [keyed.snapshots_about, Option.mem_toList, Option.map_eq_some_iff] at own
  obtain ⟨b, made, same⟩ := own
  exact ⟨b, made, same.symm⟩

end Keyed

/-! Two registries with the same breaker of one dependency -/

structure Agree (dependency : String) (r t : Registry) : Prop where
  breaker : t.get? dependency = r.get? dependency
  config : t.configFor dependency = r.configFor dependency
  keyed : r.Keyed
  keyed' : t.Keyed

namespace Agree

theorem found (agree : Agree dependency r t) :
    t.found dependency = r.found dependency := by
  unfold Registry.found fresh
  rw [agree.breaker, agree.config]

theorem answer (agree : Agree dependency r t) (mine : op.mayConcern dependency)
    (now : Nat) :
    (t.perform now op).1.about dependency =
      (r.perform now op).1.about dependency := by
  have own {name : String} (about : (some name).all (· == dependency)) :
      name = dependency := by simpa using about
  cases op with
  | getOrCreate name =>
      cases own mine
      change RegistryReply.breaker (some (t.getOrCreate dependency).1) =
        .breaker (some (r.getOrCreate dependency).1)
      rw [getOrCreate_breaker, getOrCreate_breaker, agree.found]
  | get name =>
      cases own mine
      exact congrArg RegistryReply.breaker agree.breaker
  | ask name op =>
      cases own mine
      change RegistryReply.reply (t.ask now dependency op).1 =
        .reply (r.ask now dependency op).1
      rw [ask_eq, ask_eq, agree.found]
  | resolve name use => rfl
  | reset name =>
      cases own mine
      change RegistryReply.found (t.reset dependency).1 =
        .found (r.reset dependency).1
      rw [reset_found, reset_found, agree.breaker]
  | resetAll => rfl
  | snapshots =>
      change RegistryReply.snapshots ((t.snapshots now).1.filter _) =
        .snapshots ((r.snapshots now).1.filter _)
      rw [agree.keyed.snapshots_about, agree.keyed'.snapshots_about,
        agree.breaker]

theorem perform (agree : Agree dependency r t) (now : Nat) (op : RegistryOp) :
    Agree dependency (r.perform now op).2.2 (t.perform now op).2.2 where
  breaker := by rw [get?_perform, get?_perform, agree.breaker, agree.found]
  config := by rw [configFor_perform, configFor_perform, agree.config]
  keyed := agree.keyed.perform now op
  keyed' := agree.keyed'.perform now op

theorem perform_other (agree : Agree dependency r t)
    (foreign : ¬ op.mayConcern dependency) (now : Nat) :
    Agree dependency (r.perform now op).2.2 t where
  breaker := by
    obtain ⟨unneeded, unheard⟩ := RegistryOp.unheard_of_foreign foreign
    rw [get?_perform, unneeded, if_neg Bool.false_ne_true, unheard,
      agree.breaker]
    exact Option.map_id_apply.symm
  config := by rw [configFor_perform, agree.config]
  keyed := agree.keyed.perform now op
  keyed' := agree.keyed'

theorem run (agree : Agree dependency r t) (events : List (Nat × RegistryOp)) :
    (t.transcript (events.filter (·.2.mayConcern dependency))).map
        (Prod.map id (·.about dependency)) =
      ((r.transcript events).filter (·.1.2.mayConcern dependency)).map
        (Prod.map id (·.about dependency)) ∧
    Agree dependency (r.run events).2.2
      (t.run (events.filter (·.2.mayConcern dependency))).2.2 := by
  induction events generalizing r t with
  | nil => exact ⟨rfl, agree⟩
  | cons event rest ih =>
      obtain ⟨now, op⟩ := event
      rw [transcript_cons]
      by_cases mine : op.mayConcern dependency
      · obtain ⟨same, after⟩ := ih (agree.perform now op)
        rw [List.filter_cons, if_pos mine, List.filter_cons, if_pos mine,
          transcript_cons, List.map_cons, List.map_cons, same]
        refine ⟨?_, after⟩
        exact congrArg (List.cons · _)
          (Prod.ext rfl (agree.answer mine now))
      · rw [List.filter_cons, if_neg mine, List.filter_cons, if_neg mine]
        exact ih (agree.perform_other mine now)

end Agree

/-- A dependency has one breaker. It is made when it is first needed, by the
override for the dependency or else by the defaults, and it has heard of every
operation since; lookups find it, and reports list it once, in strict order,
however the breakers are kept. Operations on other single dependencies make no
difference to it or to its answers. -/
theorem breakers_kept_apart (defaults : BreakerConfig)
    (overrides : Assoc BreakerConfig) (events : List (Nat × RegistryOp))
    (dependency : String) :
    let r : Registry := { defaults, overrides }
    let reached := (r.run events).2.2
    let since := sinceNeeded dependency events
    let config := (overrides.get? dependency).getD defaults
    let concerning := events.filter (·.2.mayConcern dependency)
    reached.get? dependency =
      (if since.isEmpty then none
        else some (Breaker.run { dependency, config }
          (heard dependency since)).2) ∧
    (r.run events).2.1.countP (·.isMaking dependency) =
      (if since.isEmpty then 0 else 1) ∧
    (∀ b now, reached.get? dependency = some b →
      reached.perform now (.getOrCreate dependency) =
        (.breaker (some b), [], reached) ∧
      reached.perform now (.get dependency) =
        (.breaker (some b), [], reached)) ∧
    (∀ now,
      let listed := (reached.snapshots now).1
      (listed.map (·.dependency)).Pairwise (· < ·) ∧
      (∀ name, name ∈ listed.map (·.dependency) ↔
        ∃ event ∈ events, event.2.needs name) ∧
      (∀ snapshot ∈ listed, ∃ b,
        reached.get? snapshot.dependency = some b ∧
        snapshot = (b.snapshot now).1) ∧
      ∀ breakers : List Breaker, breakers.Perm reached.breakers.values →
        reportOf breakers now = listed) ∧
    (r.transcript concerning).map (Prod.map id (·.about dependency)) =
      ((r.transcript events).filter (·.1.2.mayConcern dependency)).map
        (Prod.map id (·.about dependency)) ∧
    (r.run concerning).2.2.get? dependency = reached.get? dependency := by
  intro r reached since config concerning
  have empty : r.Keyed := nofun
  have keyed : reached.Keyed := empty.run events
  have unmade (name : String) : r.get? name = none := rfl
  have agree : Agree dependency r r := ⟨rfl, rfl, empty, empty⟩
  obtain ⟨answers, after⟩ := agree.run events
  refine ⟨get?_run (unmade dependency) events,
    run_isMaking (unmade dependency) events, ?_, ?_, answers, after.breaker⟩
  · intro b now made
    constructor
    · change (RegistryReply.breaker (some (reached.getOrCreate dependency).1),
        (reached.getOrCreate dependency).2) = _
      rw [getOrCreate_of_some made]
    · change (RegistryReply.breaker (reached.get? dependency), _, _) = _
      rw [made]
  · intro now listed
    refine ⟨keyed.ascending now, ?_, fun snapshot =>
      keyed.exists_of_mem_snapshots, fun breakers moved =>
      reportOf_perm keyed.apart moved now⟩
    intro name
    rw [keyed.mem_snapshots_iff, Assoc.mem_keys_iff]
    exact isSome_get?_run (unmade name) events

/-- The failure that opens the one breaker is the only one it hears of. -/
theorem breakers_kept_apart_by_override :
    let r : Registry := {
      defaults := ⟨5, 100, 100⟩
      overrides := Assoc.empty.insert "anthropic" ⟨1, 100, 100⟩ }
    let reached := (r.run [(0, .ask "openai" .recordFailure),
      (1, .ask "anthropic" .recordFailure), (2, .ask "openai" .acquire),
      (2, .resolve "openai" .success)]).2.2
    let b : Breaker := ⟨"anthropic", ⟨1, 100, 100⟩, .opened, [1], some 1⟩
    reached.get? "anthropic" = some b ∧
      reached.perform 3 (.getOrCreate "anthropic") =
        (.breaker (some b), [], reached) := by
  obtain ⟨-, -, lookups, -⟩ := breakers_kept_apart ⟨5, 100, 100⟩
    (Assoc.empty.insert "anthropic" ⟨1, 100, 100⟩)
    [(0, .ask "openai" .recordFailure), (1, .ask "anthropic" .recordFailure),
      (2, .ask "openai" .acquire), (2, .resolve "openai" .success)]
    "anthropic"
  intro r reached b
  have made : reached.get? "anthropic" = some b := by decide +kernel
  exact ⟨made, (lookups b 3 made).1⟩

end Registry

end Tollgate
