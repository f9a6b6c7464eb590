import Mathlib.Data.List.TakeWhile
import Tollgate.Assoc.Lemmas
import Tollgate.Breaker.Registry.Run
import Tollgate.Proofs.Breaker.Telling
import Tollgate.Proofs.Breaker.Transition
import Tollgate.Proofs.Gate.Frame

/-!
The breaker that a registry keeps for one dependency. It is made by the first
operation that needs it, and from then on it is the breaker that has heard of
every operation on the dependency, and of those on all.
-/

namespace Tollgate

namespace RegistryOp

/-- The operation needs the dependency's breaker, and makes it if there is
none. -/
def needs (dependency : String) : RegistryOp → Bool
  | getOrCreate name | ask name _ => name == dependency
  | _ => false

/-- What the dependency's breaker hears of the operation. -/
def heard? (dependency : String) : RegistryOp → Option BreakerOp
  | ask name op => if name = dependency then some op else none
  | resolve name use => if name = dependency then use.op? else none
  | reset name => if name = dependency then some .reset else none
  | resetAll => some .reset
  | snapshots => some .snapshot
  | getOrCreate _ | get _ => none

end RegistryOp

def heard (dependency : String) (events : List (Nat × RegistryOp)) :
    List (Nat × BreakerOp) :=
  events.filterMap fun event => (event.2.heard? dependency).map (event.1, ·)

/-- A run from the first operation on that needs the dependency's breaker. -/
def sinceNeeded (dependency : String) (events : List (Nat × RegistryOp)) :
    List (Nat × RegistryOp) :=
  events.dropWhile fun event => !event.2.needs dependency

section

variable {dependency : String} {now : Nat} {op : RegistryOp}

theorem sinceNeeded_of_needs (needed : op.needs dependency)
    (rest : List (Nat × RegistryOp)) :
    sinceNeeded dependency ((now, op) :: rest) = (now, op) :: rest := by
  simp [sinceNeeded, needed]

theorem sinceNeeded_of_not_needs (unneeded : ¬ op.needs dependency)
    (rest : List (Nat × RegistryOp)) :
    sinceNeeded dependency ((now, op) :: rest) =
      sinceNeeded dependency rest := by
  simp [sinceNeeded, unneeded]

theorem sinceNeeded_isEmpty {events : List (Nat × RegistryOp)} :
    (sinceNeeded dependency events).isEmpty ↔
      ¬ ∃ event ∈ events, event.2.needs dependency := by
  rw [List.isEmpty_iff, sinceNeeded, List.dropWhile_eq_nil_iff]
  simp

end

def Signal.isMaking (dependency : String) : Signal → Bool
  | log (.breakerCreated name) => name == dependency
  | _ => false

namespace Breaker

def hear (b : Breaker) (now : Nat) : Option BreakerOp → Breaker
  | none => b
  | some op => (b.perform now op).2.breaker

theorem run_heard_cons (b : Breaker) (dependency : String) (now : Nat)
    (op : RegistryOp) (rest : List (Nat × RegistryOp)) :
    (b.run (heard dependency ((now, op) :: rest))).2 =
      ((b.hear now (op.heard? dependency)).run (heard dependency rest)).2 := by
  unfold heard
  rw [List.filterMap_cons]
  cases op.heard? dependency with
  | none => rfl
  | some heard => rfl

theorem Tells.isMaking {name dependency : String} {state next : CircuitState}
    {reply : BreakerReply} {told : List Signal}
    (tells : Tells name state reply told next) :
    told.countP (·.isMaking dependency) = 0 := by
  cases tells with
  | stays | refuses | enters => rfl
  | trips reply answered event trip next other =>
      cases event with
      | tripped | trialFailed => rfl
      | _ => cases trip

theorem perform_isMaking (b : Breaker) (now : Nat) (op : BreakerOp)
    (dependency : String) :
    (b.perform now op).2.signals.countP (·.isMaking dependency) = 0 :=
  (b.perform_tells now op).isMaking

end Breaker

namespace Registry

variable {r : Registry} {b : Breaker} {dependency : String}

def fresh (r : Registry) (dependency : String) : Breaker :=
  { dependency, config := r.configFor dependency }

def found (r : Registry) (dependency : String) : Breaker :=
  (r.get? dependency).getD (r.fresh dependency)

theorem get?_put (r : Registry) (name dependency : String) (b : Breaker) :
    (r.put name b).get? dependency =
      if name = dependency then some b else r.get? dependency :=
  Assoc.get?_insert _ _ _ _

theorem getOrCreate_of_some (made : r.get? dependency = some b) :
    r.getOrCreate dependency = (b, [], r) := by
  simp [getOrCreate, made]

theorem getOrCreate_of_none (unmade : r.get? dependency = none) :
    r.getOrCreate dependency =
      (r.fresh dependency,
        [.log (.breakerCreated dependency), .gauge dependency .closed],
        r.put dependency (r.fresh dependency)) := by
  simp [getOrCreate, unmade, fresh]

theorem getOrCreate_breaker (r : Registry) (dependency : String) :
    (r.getOrCreate dependency).1 = r.found dependency := by
  unfold found
  cases made : r.get? dependency with
  | none => rw [getOrCreate_of_none made, Option.getD_none]
  | some b => rw [getOrCreate_of_some made, Option.getD_some]

theorem get?_getOrCreate (r : Registry) (name dependency : String) :
    (r.getOrCreate name).2.2.get? dependency =
      if name = dependency then some (r.found name) else r.get? dependency := by
  unfold found
  cases made : r.get? name with
  | none =>
      rw [getOrCreate_of_none made, get?_put, Option.getD_none]
  | some b =>
      rw [getOrCreate_of_some made, Option.getD_some]
      split
      · rename_i same
        rw [← same, made]
      · rfl

theorem ask_eq (r : Registry) (now : Nat) (name : String) (op : BreakerOp) :
    r.ask now name op =
      (((r.found name).perform now op).1,
        (r.getOrCreate name).2.1 ++ ((r.found name).perform now op).2.signals,
        (r.getOrCreate name).2.2.put name
          ((r.found name).perform now op).2.breaker) := by
  rw [← getOrCreate_breaker]
  rfl

theorem get?_resolve (r : Registry) (now : Nat) (name dependency : String)
    (use : PermitUse) :
    (r.resolve now name use).2.get? dependency =
      if name = dependency then (r.get? dependency).map (·.hear now use.op?)
      else r.get? dependency := by
  by_cases same : name = dependency
  · subst same
    rw [if_pos rfl]
    unfold resolve
    cases made : r.get? name with
    | none => exact made
    | some b =>
        cases heard : use.op? with
        | none => exact made
        | some op => exact Assoc.get?_insert_self _ _ _
  · rw [if_neg same]
    unfold resolve
    split
    · exact Assoc.get?_insert_of_ne _ _ same
    · rfl

theorem get?_reset (r : Registry) (name dependency : String) :
    (r.reset name).2.2.get? dependency =
      if name = dependency then (r.get? dependency).map (·.reset.breaker)
      else r.get? dependency := by
  by_cases same : name = dependency
  · subst same
    rw [if_pos rfl]
    unfold reset
    cases made : r.get? name with
    | none => exact made
    | some b => exact Assoc.get?_insert_self _ _ _
  · rw [if_neg same]
    unfold reset
    split
    · rfl
    · exact Assoc.get?_insert_of_ne _ _ same

theorem reset_found (r : Registry) (dependency : String) :
    (r.reset dependency).1 = (r.get? dependency).isSome := by
  unfold reset
  cases r.get? dependency with
  | none => rfl
  | some b => rfl

theorem getOrCreate_isMaking (r : Registry) (name dependency : String) :
    (r.getOrCreate name).2.1.countP (·.isMaking dependency) =
      if name == dependency ∧ r.get? dependency = none then 1 else 0 := by
  cases made : r.get? name with
  | none =>
      rw [getOrCreate_of_none made]
      by_cases same : name = dependency
      · subst same
        simp [Signal.isMaking, made]
      · simp [Signal.isMaking, same]
  | some b =>
      rw [getOrCreate_of_some made]
      by_cases same : name = dependency
      · subst same
        simp [made]
      · simp [same]

/-! One operation -/

/-- An operation that needs the dependency's breaker finds it or makes it. All
operations let it hear what they are to it. -/
theorem get?_perform (r : Registry) (now : Nat) (op : RegistryOp)
    (dependency : String) :
    (r.perform now op).2.2.get? dependency =
      (if op.needs dependency then some (r.found dependency)
        else r.get? dependency).map (·.hear now (op.heard? dependency)) := by
  cases op with
  | getOrCreate name =>
      change (r.getOrCreate name).2.2.get? dependency = _
      rw [get?_getOrCreate]
      by_cases same : name = dependency
      · simp [RegistryOp.needs, RegistryOp.heard?, same, Breaker.hear]
      · simp [RegistryOp.needs, RegistryOp.heard?, same, Breaker.hear]
  | get name =>
      simp [perform, RegistryOp.needs, RegistryOp.heard?, Breaker.hear]
  | ask name op =>
      change (r.ask now name op).2.2.get? dependency = _
      rw [ask_eq, get?_put, get?_getOrCreate]
      by_cases same : name = dependency
      · simp [RegistryOp.needs, RegistryOp.heard?, same, Breaker.hear]
      · simp [RegistryOp.needs, RegistryOp.heard?, same, Breaker.hear]
  | resolve name use =>
      change (r.resolve now name use).2.get? dependency = _
      rw [get?_resolve]
      by_cases same : name = dependency
      · simp [RegistryOp.needs, RegistryOp.heard?, same]
      · simp [RegistryOp.needs, RegistryOp.heard?, same, Breaker.hear]
  | reset name =>
      change (r.reset name).2.2.get? dependency = _
      rw [get?_reset]
      by_cases same : name = dependency
      · simp [RegistryOp.needs, RegistryOp.heard?, same, Breaker.hear,
          Breaker.perform]
      · simp [RegistryOp.needs, RegistryOp.heard?, same, Breaker.hear]
  | resetAll => exact Assoc.get?_map _ _ _
  | snapshots => exact Assoc.get?_map _ _ _

@[simp]
theorem configFor_perform (r : Registry) (now : Nat) (op : RegistryOp) :
    (r.perform now op).2.2.configFor = r.configFor := by
  have made (name : String) :
      (r.getOrCreate name).2.2.configFor = r.configFor := by
    cases made : r.get? name with
    | none =>
        rw [getOrCreate_of_none made]
        rfl
    | some b => rw [getOrCreate_of_some made]
  cases op with
  | getOrCreate name => exact made name
  | get name => rfl
  | ask name op => exact made name
  | resolve name use =>
      change (r.resolve now name use).2.configFor = _
      unfold resolve
      split
      · rfl
      · rfl
  | reset name =>
      change (r.reset name).2.2.configFor = _
      unfold reset
      split
      · rfl
      · rfl
  | resetAll => rfl
  | snapshots => rfl

theorem perform_isMaking (r : Registry) (now : Nat) (op : RegistryOp)
    (dependency : String) :
    (r.perform now op).2.1.countP (·.isMaking dependency) =
      if op.needs dependency ∧ r.get? dependency = none then 1 else 0 := by
  cases op with
  | getOrCreate name => exact r.getOrCreate_isMaking name dependency
  | get name => rfl
  | ask name op =>
      change (r.ask now name op).2.1.countP _ = _
      rw [ask_eq, List.countP_append, Breaker.perform_isMaking, Nat.add_zero]
      exact r.getOrCreate_isMaking name dependency
  | resolve name use =>
      change (r.resolve now name use).1.countP _ = 0
      unfold resolve
      split
      · exact Breaker.perform_isMaking _ _ _ _
      · rfl
  | reset name =>
      change (r.reset name).2.1.countP _ = 0
      unfold reset
      split
      · rfl
      · exact Breaker.perform_isMaking _ now .reset _
  | resetAll =>
      change (r.breakers.values.flatMap fun b => b.reset.signals).countP _ = 0
      rw [List.countP_eq_zero]
      intro signal member
      obtain ⟨b, -, told⟩ := List.mem_flatMap.mp member
      have untold : b.reset.signals.countP (·.isMaking dependency) = 0 :=
        b.perform_isMaking now .reset dependency
      exact List.countP_eq_zero.mp untold signal told
  | snapshots => rfl

theorem fresh_perform (r : Registry) (now : Nat) (op : RegistryOp) :
    (r.perform now op).2.2.fresh = r.fresh := by
  unfold fresh
  rw [configFor_perform]

theorem found_of_some (made : r.get? dependency = some b) :
    r.found dependency = b := by
  rw [found, made, Option.getD_some]

theorem found_of_none (unmade : r.get? dependency = none) :
    r.found dependency = r.fresh dependency := by
  rw [found, unmade, Option.getD_none]

/-- What a new breaker has, and whatever it hears leaves it with, all have. -/
theorem of_get?_perform {P : Breaker → Prop} {now : Nat} {op : RegistryOp}
    {after : Breaker}
    (made : (r.perform now op).2.2.get? dependency = some after)
    (fresh : P (r.fresh dependency))
    (before : ∀ b, r.get? dependency = some b → P b)
    (hears : ∀ b op, P b → P (b.perform now op).2.breaker) : P after := by
  rw [get?_perform, Option.map_eq_some_iff] at made
  obtain ⟨b, known, rfl⟩ := made
  have found : P b := by
    split at known
    · cases known
      cases made : r.get? dependency with
      | none => exact found_of_none made ▸ fresh
      | some b => exact found_of_some made ▸ before b made
    · exact before b known
  cases op.heard? dependency with
  | none => exact found
  | some heard => exact hears b heard found

/-! Runs -/

theorem run_append (r : Registry) (first second : List (Nat × RegistryOp)) :
    (r.run (first ++ second)).2.2 =
      ((r.run first).2.2.run second).2.2 := by
  induction first generalizing r with
  | nil => rfl
  | cons event rest ih => exact ih (r.perform event.1 event.2).2.2

theorem get?_perform_of_some (made : r.get? dependency = some b) (now : Nat)
    (op : RegistryOp) :
    (r.perform now op).2.2.get? dependency =
      some (b.hear now (op.heard? dependency)) := by
  rw [get?_perform, found_of_some made, made, ite_self, Option.map_some]

theorem get?_run_of_some (made : r.get? dependency = some b)
    (events : List (Nat × RegistryOp)) :
    (r.run events).2.2.get? dependency =
      some (b.run (heard dependency events)).2 := by
  induction events generalizing r b with
  | nil => exact made
  | cons event rest ih =>
      obtain ⟨now, op⟩ := event
      rw [Breaker.run_heard_cons]
      exact ih (get?_perform_of_some made now op)

theorem get?_run (unmade : r.get? dependency = none)
    (events : List (Nat × RegistryOp)) :
    (r.run events).2.2.get? dependency =
      if (sinceNeeded dependency events).isEmpty then none
      else some ((r.fresh dependency).run
        (heard dependency (sinceNeeded dependency events))).2 := by
  induction events generalizing r with
  | nil => exact unmade
  | cons event rest ih =>
      obtain ⟨now, op⟩ := event
      have next := r.get?_perform now op dependency
      by_cases needed : op.needs dependency
      · rw [if_pos needed, found_of_none unmade, Option.map_some] at next
        rw [sinceNeeded_of_needs needed, List.isEmpty_cons,
          if_neg Bool.false_ne_true, Breaker.run_heard_cons]
        -- From here on the breaker is there, and all it does is hear.
        exact get?_run_of_some next rest
      · rw [if_neg needed, unmade, Option.map_none] at next
        rw [sinceNeeded_of_not_needs needed, ← r.fresh_perform now op]
        exact ih next

theorem configFor_run (r : Registry) (events : List (Nat × RegistryOp)) :
    (r.run events).2.2.configFor = r.configFor := by
  induction events generalizing r with
  | nil => rfl
  | cons event rest ih =>
      exact (ih _).trans (r.configFor_perform event.1 event.2)

theorem found_run_config (unmade : r.get? dependency = none)
    (events : List (Nat × RegistryOp)) :
    ((r.run events).2.2.found dependency).config = r.configFor dependency := by
  rw [found, get?_run unmade]
  split
  · rw [Option.getD_none, fresh, configFor_run]
  · rw [Option.getD_some, Breaker.run_config]
    rfl

theorem isSome_get?_run (unmade : r.get? dependency = none)
    (events : List (Nat × RegistryOp)) :
    ((r.run events).2.2.get? dependency).isSome ↔
      ∃ event ∈ events, event.2.needs dependency := by
  rw [get?_run unmade]
  split
  · rename_i empty
    exact ⟨nofun, fun needed => absurd needed (sinceNeeded_isEmpty.mp empty)⟩
  · rename_i occupied
    rw [sinceNeeded_isEmpty, not_not] at occupied
    exact ⟨fun _ => occupied, fun _ => rfl⟩

theorem run_isMaking_of_some (made : r.get? dependency = some b)
    (events : List (Nat × RegistryOp)) :
    (r.run events).2.1.countP (·.isMaking dependency) = 0 := by
  induction events generalizing r b with
  | nil => rfl
  | cons event rest ih =>
      obtain ⟨now, op⟩ := event
      rw [run_cons, List.countP_append, perform_isMaking, made,
        if_neg (fun needed => nomatch needed.2)]
      exact (Nat.zero_add _).trans (ih (get?_perform_of_some made now op))

theorem run_isMaking (unmade : r.get? dependency = none)
    (events : List (Nat × RegistryOp)) :
    (r.run events).2.1.countP (·.isMaking dependency) =
      if (sinceNeeded dependency events).isEmpty then 0 else 1 := by
  induction events generalizing r with
  | nil => rfl
  | cons event rest ih =>
      obtain ⟨now, op⟩ := event
      have next := r.get?_perform now op dependency
      rw [run_cons, List.countP_append, perform_isMaking]
      by_cases needed : op.needs dependency
      · rw [if_pos needed, Option.map_some] at next
        rw [sinceNeeded_of_needs needed, if_pos ⟨needed, unmade⟩,
          run_isMaking_of_some next]
        rfl
      · rw [if_neg needed, unmade, Option.map_none] at next
        rw [sinceNeeded_of_not_needs needed, if_neg fun told => needed told.1,
          Nat.zero_add]
        exact ih next

end Registry

/-! A gate asks by way of its registry. -/

namespace Gate

theorem askBreaker_eq (g : Gate) (dependency : String) (op : BreakerOp) :
    g.askBreaker dependency op =
      let (reply, signals, registry) := g.registry.ask g.now dependency op
      (reply, { g with registry }.tell signals) := by
  dsimp only [askBreaker, Registry.ask, putBreaker, breaker]
  rw [← tell_tell]
  rfl

end Gate

end Tollgate
