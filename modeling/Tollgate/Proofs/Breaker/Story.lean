import Tollgate.Proofs.Breaker.Isolation
import Tollgate.Proofs.Breaker.Telling
import Tollgate.Proofs.Telemetry.Reading

/-!
The story of a breaker as it is told. It begins when the breaker is made, and
goes on with the attempts that are refused and the states that are entered, each
from where the last one ended. Whatever is asked of a registry, what it tells
goes on with the story of each of its breakers.
-/

namespace Tollgate

def Signal.breaker? : Signal → Option String
  | log (.stateChanged dependency _ _) | count (.transitions dependency _)
  | count (.rejections dependency) | gauge dependency _ => some dependency
  | _ => none

def Signal.isBreakers : Signal → Bool
  | count (.admissions _) | count (.rollbacks _) => false
  | _ => true

/-- The signals tell the story of the dependency's breaker, which has refused so
many attempts and is in the state, if it has been made. -/
inductive Story (dependency : String) :
    List Signal → Nat → Option CircuitState → Prop where
  | nothing : Story dependency [] 0 none
  | other {told : List Signal} {refusals : Nat} {state : Option CircuitState}
      (story : Story dependency told refusals state) (signal : Signal)
      (foreign : signal.breaker? ≠ some dependency) :
      Story dependency (told ++ [signal]) refusals state
  | made {told : List Signal} {refusals : Nat}
      (story : Story dependency told refusals none) :
      Story dependency (told ++ [.gauge dependency .closed]) refusals
        (some .closed)
  | refused {told : List Signal} {refusals : Nat} {state : CircuitState}
      (story : Story dependency told refusals (some state)) :
      Story dependency (told ++ [.count (.rejections dependency)])
        (refusals + 1) (some state)
  | entered {told : List Signal} {refusals : Nat} {state : CircuitState}
      (story : Story dependency told refusals (some state))
      (next : CircuitState) (other : state ≠ next) :
      Story dependency (told ++ Breaker.changeSignals dependency state next)
        refusals (some next)

def RegistryOp.refused? : RegistryOp → RegistryReply → Option String
  | ask dependency _, .reply reply =>
      if reply.isRefusal then some dependency else none
  | _, _ => none

def LogEvent.change? (dependency : String) :
    LogEvent → Option (CircuitState × CircuitState)
  | stateChanged name before after =>
      if name = dependency then some (before, after) else none
  | _ => none

def Telemetry.changes (t : Telemetry) (dependency : String) :
    List (CircuitState × CircuitState) :=
  (events t.signals).filterMap (·.change? dependency)

namespace CircuitState

/-- The changes lead from one state to the other, each from where the last one
ended to another state. -/
def Leads (first : CircuitState) :
    List (CircuitState × CircuitState) → CircuitState → Prop
  | [], last => first = last
  | (before, after) :: rest, last =>
      before = first ∧ before ≠ after ∧ after.Leads rest last

theorem Leads.concat {first before after : CircuitState}
    {changes : List (CircuitState × CircuitState)}
    (leads : first.Leads changes before) (other : before ≠ after) :
    first.Leads (changes ++ [(before, after)]) after := by
  induction changes generalizing first with
  | nil => exact ⟨leads.symm, other, rfl⟩
  | cons change rest ih => exact ⟨leads.1, leads.2.1, ih leads.2.2⟩

end CircuitState

namespace Telemetry

variable {dependency : String}

theorem changes_append (told more : List Signal) :
    changes { signals := told ++ more } dependency =
      changes { signals := told } dependency ++
        changes { signals := more } dependency := by
  unfold changes events
  rw [List.filterMap_append, List.filterMap_append]

/-! A signal that is not about the dependency's breaker shows nothing of it. -/

theorem changes_foreign {signal : Signal}
    (foreign : signal.breaker? ≠ some dependency) :
    changes { signals := [signal] } dependency = [] := by
  cases signal with
  | log event =>
      cases event with
      | stateChanged name before after =>
          have different : name ≠ dependency := by
            simpa [Signal.breaker?] using foreign
          simp [changes, events, LogEvent.change?, different]
      | _ => rfl
  | count | gauge => rfl

theorem countOf_foreign {signal : Signal}
    (foreign : signal.breaker? ≠ some dependency) (counter : Counter)
    (own : (Signal.count counter).breaker? = some dependency) :
    countOf { signals := [signal] } counter = 0 := by
  cases signal with
  | log | gauge => rfl
  | count other =>
      have different : other ≠ counter := by
        rintro rfl
        exact foreign own
      simp [countOf, counts, different]

theorem gaugeOf_foreign {signal : Signal}
    (foreign : signal.breaker? ≠ some dependency) :
    gaugeOf { signals := [signal] } dependency = none := by
  cases signal with
  | log | count => rfl
  | gauge name state =>
      have different : name ≠ dependency := by
        simpa [Signal.breaker?] using foreign
      simp [gaugeOf, gaugings, different]

theorem changes_changeSignals (before after : CircuitState) :
    changes { signals := Breaker.changeSignals dependency before after }
        dependency = [(before, after)] := by
  simp [changes, events, Breaker.changeSignals, LogEvent.change?]

end Telemetry

namespace Story

variable {dependency : String} {told more : List Signal} {refusals : Nat}
  {state : Option CircuitState}

theorem others (story : Story dependency told refusals state)
    (foreign : ∀ signal ∈ more, signal.breaker? ≠ some dependency) :
    Story dependency (told ++ more) refusals state := by
  induction more generalizing told with
  | nil => simpa using story
  | cons signal rest ih =>
      have next := story.other signal (foreign signal List.mem_cons_self)
      rw [List.append_cons]
      exact ih next fun other member =>
        foreign other (List.mem_cons_of_mem _ member)

/-! One breaker -/

theorem hears {state next : CircuitState} {reply : BreakerReply}
    (story : Story dependency told refusals (some state))
    (tells : Breaker.Tells dependency state reply more next) :
    Story dependency (told ++ more)
      (refusals + if reply.isRefusal then 1 else 0) (some next) := by
  cases tells with
  | stays reply answered => simpa [answered] using story
  | refuses circuit => exact story.refused
  | enters reply answered next other =>
      simpa [answered] using story.entered next other
  | trips reply answered event trip next other =>
      have foreign : (Signal.log event).breaker? ≠ some dependency := by
        cases event with
        | tripped | trialFailed => exact nofun
        | _ => cases trip
      rw [List.append_cons]
      simpa [answered] using (story.other _ foreign).entered next other

theorem foreign {name : String} {before after : CircuitState}
    {reply : BreakerReply} (tells : Breaker.Tells name before reply more after)
    (different : name ≠ dependency) :
    ∀ signal ∈ more, signal.breaker? ≠ some dependency := by
  cases tells with
  | stays => exact nofun
  | refuses | enters =>
      simp [Breaker.changeSignals, Signal.breaker?, different]
  | trips reply answered event trip next other =>
      cases event with
      | tripped | trialFailed =>
          simp [Breaker.changeSignals, Signal.breaker?, different]
      | _ => cases trip

/-! One registry -/

variable {r : Registry} {now : Nat}

theorem getOrCreate
    (story : Story dependency told refusals
      ((r.get? dependency).map (·.state))) (name : String) :
    Story dependency (told ++ (r.getOrCreate name).2.1) refusals
      (((r.getOrCreate name).2.2.get? dependency).map (·.state)) := by
  cases made : r.get? name with
  | some b =>
      rw [Registry.getOrCreate_of_some made]
      simpa using story
  | none =>
      rw [Registry.getOrCreate_of_none made, List.append_cons,
        Registry.get?_put]
      have logged := story.other (.log (.breakerCreated name)) nofun
      split
      · rename_i same
        subst same
        rw [made] at logged
        exact logged.made
      · rename_i different
        exact logged.other _ (by simpa [Signal.breaker?] using different)

theorem put
    (story : Story dependency told refusals
      ((r.get? dependency).map (·.state)))
    {name : String} {b : Breaker} (made : r.get? name = some b)
    (own : b.dependency = name) (now : Nat) (op : BreakerOp) :
    Story dependency (told ++ (b.perform now op).2.signals)
      (refusals +
        if name = dependency ∧ (b.perform now op).1.isRefusal then 1 else 0)
      (((r.put name (b.perform now op).2.breaker).get? dependency).map
        (·.state)) := by
  have tells := b.perform_tells now op
  rw [own] at tells
  rw [Registry.get?_put]
  by_cases same : name = dependency
  · subst same
    rw [made] at story
    simpa using story.hears tells
  · simpa [same] using story.others (foreign tells same)

theorem put_of_answered
    (story : Story dependency told refusals
      ((r.get? dependency).map (·.state)))
    {name : String} {b : Breaker} (made : r.get? name = some b)
    (own : b.dependency = name) (now : Nat) (op : BreakerOp)
    (answered : (b.perform now op).1.isRefusal = false) :
    Story dependency (told ++ (b.perform now op).2.signals) refusals
      (((r.put name (b.perform now op).2.breaker).get? dependency).map
        (·.state)) := by
  simpa [answered] using story.put made own now op

theorem reset_tells (keyed : r.Keyed) {e : String × Breaker}
    (member : e ∈ r.breakers.entries) :
    Breaker.Tells e.1 e.2.state .done e.2.reset.signals .closed := by
  have tells : Breaker.Tells e.2.dependency e.2.state .done e.2.reset.signals
      e.2.reset.breaker.state := e.2.perform_tells 0 .reset
  rw [keyed e.1 e.2 (Assoc.mem_entries_iff.mp member),
    Breaker.reset_breaker] at tells
  exact tells

theorem foreign_resets (keyed : r.Keyed) {entries : List (String × Breaker)}
    (within : ∀ e ∈ entries, e ∈ r.breakers.entries)
    (different : ∀ e ∈ entries, e.1 ≠ dependency) :
    ∀ signal ∈ entries.flatMap (·.2.reset.signals),
      signal.breaker? ≠ some dependency := by
  intro signal member
  obtain ⟨e, inside, told⟩ := List.mem_flatMap.mp member
  exact foreign (reset_tells keyed (within e inside)) (different e inside)
    signal told

theorem resetAll (keyed : r.Keyed)
    (story : Story dependency told refusals
      ((r.get? dependency).map (·.state))) :
    Story dependency (told ++ r.resetAll.1) refusals
      ((r.resetAll.2.get? dependency).map (·.state)) := by
  have after : r.resetAll.2.get? dependency =
      (r.get? dependency).map (·.reset.breaker) := Assoc.get?_map _ _ _
  have signals : r.resetAll.1 =
      r.breakers.entries.flatMap (·.2.reset.signals) := List.flatMap_map ..
  rw [after, signals]
  cases made : r.get? dependency with
  | none =>
      rw [made] at story
      refine story.others (foreign_resets keyed (fun _ => id) ?_)
      rintro e member rfl
      have found := Assoc.mem_entries_iff.mp member
      exact absurd (found.symm.trans made) nofun
  | some b =>
      obtain ⟨before, later, entries, others⟩ :=
        Assoc.entries_of_get?_eq_some made
      have own := reset_tells keyed (Assoc.mem_entries_iff.mpr made)
      have inside {part : List (String × Breaker)}
          (sub : part.Sublist r.breakers.entries) :
          ∀ e ∈ part, e ∈ r.breakers.entries := fun _ => sub.mem
      have first := foreign_resets keyed
        (inside (by rw [entries]; exact List.sublist_append_left _ _))
        fun e member => others e (List.mem_append_left _ member)
      have last := foreign_resets keyed
        (inside (by
          rw [entries]
          exact (List.sublist_cons_self _ _).trans
            (List.sublist_append_right _ _)))
        fun e member => others e (List.mem_append_right _ member)
      rw [made] at story
      have told := ((story.others first).hears own).others last
      rw [entries, List.flatMap_append, List.flatMap_cons, ← List.append_assoc,
        ← List.append_assoc, Option.map_some, Breaker.reset_breaker]
      exact told

theorem perform (keyed : r.Keyed)
    (story : Story dependency told refusals
      ((r.get? dependency).map (·.state))) (now : Nat) (op : RegistryOp) :
    Story dependency (told ++ (r.perform now op).2.1)
      (refusals +
        if op.refused? (r.perform now op).1 = some dependency then 1 else 0)
      (((r.perform now op).2.2.get? dependency).map (·.state)) := by
  cases op with
  | getOrCreate name => exact story.getOrCreate name
  | get name => simpa [Registry.perform, RegistryOp.refused?] using story
  | ask name op =>
      have made : (r.getOrCreate name).2.2.get? name = some (r.found name) := by
        rw [Registry.get?_getOrCreate, if_pos rfl]
      have asked := (story.getOrCreate name).put made (keyed.found name) now op
      have refused : RegistryOp.refused? (.ask name op)
          (.reply ((r.found name).perform now op).1) = some dependency ↔
          name = dependency ∧ ((r.found name).perform now op).1.isRefusal := by
        simp [RegistryOp.refused?, and_comm]
      change Story dependency (told ++ (r.ask now name op).2.1)
        (refusals + if RegistryOp.refused? (.ask name op)
          (.reply (r.ask now name op).1) = some dependency then 1 else 0)
        (((r.ask now name op).2.2.get? dependency).map (·.state))
      rw [Registry.ask_eq]
      simp only [refused, ← List.append_assoc]
      exact asked
  | resolve name use =>
      change Story dependency (told ++ (r.resolve now name use).1) refusals
        (((r.resolve now name use).2.get? dependency).map (·.state))
      unfold Registry.resolve
      split
      · rename_i b op made heard
        refine story.put_of_answered made (keyed name b made) now op ?_
        cases use with
        | success | failure => cases heard; rfl
        | dropped => cases heard
      · simpa using story
  | reset name =>
      change Story dependency (told ++ (r.reset name).2.1) refusals
        (((r.reset name).2.2.get? dependency).map (·.state))
      unfold Registry.reset
      split
      · simpa using story
      · rename_i b made
        exact story.put_of_answered made (keyed name b made) now .reset rfl
  | resetAll => exact story.resetAll keyed
  | snapshots =>
      have same : ((r.snapshots now).2.get? dependency).map (·.state) =
          (r.get? dependency).map (·.state) := by
        change ((r.breakers.map _).get? dependency).map _ = _
        rw [Assoc.get?_map, Option.map_map]
        rfl
      change Story dependency (told ++ []) refusals
        (((r.snapshots now).2.get? dependency).map (·.state))
      rw [same, List.append_nil]
      exact story

/-! What the story shows -/

open Telemetry in
theorem leads (story : Story dependency told refusals state) :
    CircuitState.closed.Leads
      (Telemetry.changes { signals := told } dependency)
      (state.getD .closed) := by
  induction story with
  | nothing => rfl
  | other story signal foreign ih =>
      rw [changes_append, changes_foreign foreign, List.append_nil]
      exact ih
  | made story ih =>
      rw [changes_append]
      simpa [Telemetry.changes, Telemetry.events] using ih
  | refused story ih =>
      rw [changes_append]
      simpa [Telemetry.changes, Telemetry.events] using ih
  | entered story next other ih =>
      rw [changes_append, changes_changeSignals]
      exact ih.concat other

open Telemetry in
theorem transitions (story : Story dependency told refusals state)
    (entered : CircuitState) :
    Telemetry.countOf { signals := told } (.transitions dependency entered) =
      (Telemetry.changes { signals := told } dependency).countP
        (·.2 = entered) := by
  induction story with
  | nothing => rfl
  | other story signal foreign ih =>
      rw [changes_append, changes_foreign foreign, List.append_nil,
        countOf_append, countOf_foreign foreign _ rfl, ih, Nat.add_zero]
  | made story ih =>
      rw [changes_append, countOf_append, ih, List.countP_append]
      rfl
  | refused story ih =>
      rw [changes_append, countOf_append, ih, List.countP_append]
      rfl
  | entered story next other ih =>
      rw [changes_append, changes_changeSignals, countOf_append, ih,
        List.countP_append, List.countP_singleton]
      simp [Telemetry.countOf, Telemetry.counts, Breaker.changeSignals,
        List.count_singleton]

open Telemetry in
theorem rejections (story : Story dependency told refusals state) :
    Telemetry.countOf { signals := told } (.rejections dependency) =
      refusals := by
  induction story with
  | nothing => rfl
  | other story signal foreign ih =>
      rw [countOf_append, countOf_foreign foreign _ rfl, ih, Nat.add_zero]
  | made story ih => rw [countOf_append, ih]; rfl
  | refused story ih =>
      rw [countOf_append, ih]
      simp [Telemetry.countOf, Telemetry.counts]
  | entered story next other ih => rw [countOf_append, ih]; rfl

open Telemetry in
theorem gauge (story : Story dependency told refusals state) :
    Telemetry.gaugeOf { signals := told } dependency = state := by
  induction story with
  | nothing => rfl
  | other story signal foreign ih =>
      rw [gaugeOf_append, gaugeOf_foreign foreign, Option.none_or, ih]
  | made story ih => simp [gaugeOf, gaugings]
  | refused story ih => rw [gaugeOf_append, ih]; rfl
  | entered story next other ih =>
      simp [gaugeOf, gaugings, Breaker.changeSignals]

end Story

/-! What registries count -/

theorem Breaker.Tells.isBreakers {dependency : String}
    {state next : CircuitState} {reply : BreakerReply} {told : List Signal}
    (tells : Tells dependency state reply told next) :
    ∀ signal ∈ told, signal.isBreakers := by
  cases tells with
  | stays => exact nofun
  | refuses | enters | trips => simp [changeSignals, Signal.isBreakers]

namespace Registry

theorem getOrCreate_isBreakers (r : Registry) (name : String) :
    ∀ signal ∈ (r.getOrCreate name).2.1, signal.isBreakers := by
  unfold getOrCreate
  split
  · exact nofun
  · simp [Signal.isBreakers]

theorem perform_isBreakers (r : Registry) (now : Nat) (op : RegistryOp) :
    ∀ signal ∈ (r.perform now op).2.1, signal.isBreakers := by
  have heard (b : Breaker) (op : BreakerOp) :
      ∀ signal ∈ (b.perform now op).2.signals, signal.isBreakers :=
    (b.perform_tells now op).isBreakers
  cases op with
  | getOrCreate name => exact r.getOrCreate_isBreakers name
  | get name => exact nofun
  | ask name op =>
      change ∀ signal ∈ (r.ask now name op).2.1, _
      rw [ask_eq]
      intro signal member
      rcases List.mem_append.mp member with made | told
      · exact r.getOrCreate_isBreakers name signal made
      · exact heard _ op signal told
  | resolve name use =>
      change ∀ signal ∈ (r.resolve now name use).1, _
      unfold resolve
      split
      · exact heard _ _
      · exact nofun
  | reset name =>
      change ∀ signal ∈ (r.reset name).2.1, _
      unfold reset
      split
      · exact nofun
      · exact heard _ .reset
  | resetAll =>
      intro signal member
      obtain ⟨b, -, told⟩ := List.mem_flatMap.mp member
      exact heard b .reset signal told
  | snapshots => exact nofun

end Registry

end Tollgate
