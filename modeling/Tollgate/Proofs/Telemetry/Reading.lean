import Mathlib.Algebra.BigOperators.Group.List.Lemmas
import Mathlib.Algebra.Order.Ring.Nat
import Tollgate.Telemetry.Record

/-!
Reading the metrics page. What it shows under a name and labels is how often
that counter went up, or what that gauge was last set to; and all that it shows
under the name of a counter adds up to how often counters of that name went up.
-/

namespace Tollgate

/-- What the samples show under a name with labels. -/
def valueOf {α : Type} (samples : List (Sample α)) (name : String)
    (labels : List (String × String)) : Option α :=
  (samples.find? fun s => s.name = name ∧ s.labels = labels).map (·.value)

/-- The sum of what the samples show under a name. -/
def totalOf (samples : List (Sample Nat)) (name : String) : Nat :=
  ((samples.filter (·.name = name)).map (·.value)).sum

theorem valueOf_eq_some {α : Type} {samples : List (Sample α)} {s : Sample α}
    (member : s ∈ samples)
    (only : ∀ other ∈ samples, other.name = s.name → other.labels = s.labels →
      other.value = s.value) :
    valueOf samples s.name s.labels = some s.value := by
  unfold valueOf
  cases found : samples.find? fun other =>
      other.name = s.name ∧ other.labels = s.labels with
  | none =>
      rw [List.find?_eq_none] at found
      exact absurd (found s member) (by simp)
  | some other =>
      obtain ⟨name, labels⟩ :
          other.name = s.name ∧ other.labels = s.labels := by
        simpa using List.find?_some found
      have same := only other (List.mem_of_find?_eq_some found) name labels
      rw [Option.map_some, same]

theorem valueOf_eq_none {α : Type} {samples : List (Sample α)} {name : String}
    {labels : List (String × String)}
    (absent : ∀ s ∈ samples, ¬ (s.name = name ∧ s.labels = labels)) :
    valueOf samples name labels = none := by
  unfold valueOf
  rw [List.find?_eq_none.mpr (by simpa using absent), Option.map_none]

theorem nodup_eraseDups {α : Type} [DecidableEq α] (l : List α) :
    l.eraseDups.Nodup := by
  cases l with
  | nil => exact .nil
  | cons head rest =>
      rw [List.eraseDups_cons, List.nodup_cons]
      exact ⟨by simp [List.mem_eraseDups], nodup_eraseDups _⟩
termination_by l.length
decreasing_by
  exact Nat.lt_succ_of_le (List.length_filter_le _ rest)

theorem CircuitState.name_injective : Function.Injective CircuitState.name := by
  intro s t
  cases s <;> cases t <;> decide

theorem AdmissionOutcome.name_injective :
    Function.Injective AdmissionOutcome.name := by
  intro s t
  cases s <;> cases t <;> decide

theorem Counter.labels_injective : Function.Injective Counter.labels := by
  intro c d labels
  cases c <;> cases d <;>
    simp_all [Counter.labels, AdmissionOutcome.name_injective.eq_iff,
      CircuitState.name_injective.eq_iff]

namespace Telemetry

variable (t : Telemetry)

theorem mem_counters {s : Sample Nat} :
    s ∈ t.counters ↔ ∃ c ∈ t.counts, s = ⟨c.name, c.labels, t.countOf c⟩ := by
  unfold counters sortSamples
  rw [(sortBy_perm _ _).mem_iff, List.mem_map]
  simp only [List.mem_eraseDups, eq_comm]

theorem valueOf_counters (c : Counter) :
    (valueOf t.counters c.name c.labels).getD 0 = t.countOf c := by
  by_cases counted : c ∈ t.counts
  · have shown := valueOf_eq_some (t.mem_counters.mpr ⟨c, counted, rfl⟩) <| by
      intro other member _ labels
      obtain ⟨d, -, rfl⟩ := t.mem_counters.mp member
      rw [Counter.labels_injective labels]
    rw [shown, Option.getD_some]
  · have absent : valueOf t.counters c.name c.labels = none := by
      refine valueOf_eq_none ?_
      rintro s member ⟨-, labels⟩
      obtain ⟨d, there, rfl⟩ := t.mem_counters.mp member
      exact counted (Counter.labels_injective labels ▸ there)
    rw [absent, countOf, List.count_eq_zero.mpr counted]
    rfl

theorem totalOf_counters (name : String) :
    totalOf t.counters name = t.counts.countP (·.name = name) := by
  have once : (t.counts.eraseDups).Perm t.counts.dedup :=
    (List.perm_ext_iff_of_nodup (nodup_eraseDups _) (List.nodup_dedup _)).mpr
      fun c => by rw [List.mem_eraseDups, List.mem_dedup]
  calc
    totalOf t.counters name =
        (((t.counts.eraseDups.map fun c =>
          (⟨c.name, c.labels, t.countOf c⟩ : Sample Nat)).filter
            (·.name = name)).map (·.value)).sum :=
      (((sortBy_perm _ _).filter _).map _).sum_eq
    _ = ((t.counts.eraseDups.filter (·.name = name)).map t.countOf).sum := by
      rw [List.filter_map, List.map_map]
      rfl
    _ = ((t.counts.dedup.filter (·.name = name)).map t.countOf).sum :=
      ((once.filter _).map _).sum_eq
    _ = t.counts.countP (·.name = name) :=
      List.sum_map_count_dedup_filter_eq_countP _ _

theorem mem_gauges {s : Sample CircuitState} :
    s ∈ t.gauges ↔ ∃ dependency state, t.gaugeOf dependency = some state ∧
      s = ⟨"breaker_state", [("dependency", dependency)], state⟩ := by
  unfold gauges sortSamples
  rw [(sortBy_perm _ _).mem_iff, List.mem_filterMap]
  constructor
  · rintro ⟨dependency, -, shown⟩
    obtain ⟨state, gauged, rfl⟩ := Option.map_eq_some_iff.mp shown
    exact ⟨dependency, state, gauged, rfl⟩
  · rintro ⟨dependency, state, gauged, rfl⟩
    refine ⟨dependency, ?_, by rw [gauged]; rfl⟩
    obtain ⟨gauging, found, -⟩ := Option.map_eq_some_iff.mp gauged
    have member := List.mem_reverse.mp (List.mem_of_find?_eq_some found)
    rw [List.mem_eraseDups, List.mem_map]
    exact ⟨gauging, member, by simpa using List.find?_some found⟩

theorem valueOf_gauges (dependency : String) :
    valueOf t.gauges "breaker_state" [("dependency", dependency)] =
      t.gaugeOf dependency := by
  have own {s : Sample CircuitState} (member : s ∈ t.gauges)
      (labels : s.labels = [("dependency", dependency)]) :
      t.gaugeOf dependency = some s.value := by
    obtain ⟨name, state, gauged, rfl⟩ := t.mem_gauges.mp member
    cases labels
    exact gauged
  cases gauged : t.gaugeOf dependency with
  | none =>
      refine valueOf_eq_none ?_
      rintro s member ⟨-, labels⟩
      exact absurd (gauged.symm.trans (own member labels)) nofun
  | some state =>
      have member := t.mem_gauges.mpr ⟨dependency, state, gauged, rfl⟩
      refine valueOf_eq_some member ?_
      intro other there _ labels
      exact Option.some.inj ((own there labels).symm.trans gauged)

/-! As signals are added -/

variable (signals : List Signal)

theorem counts_add : (t.add signals).counts = t.counts ++ counts { signals } :=
  List.filterMap_append

theorem gaugings_add :
    (t.add signals).gaugings = t.gaugings ++ gaugings { signals } :=
  List.filterMap_append

theorem countOf_append (told more : List Signal) (c : Counter) :
    countOf { signals := told ++ more } c =
      countOf { signals := told } c + countOf { signals := more } c := by
  unfold countOf counts
  rw [List.filterMap_append, List.count_append]

theorem gaugeOf_append (told more : List Signal) (dependency : String) :
    gaugeOf { signals := told ++ more } dependency =
      (gaugeOf { signals := more } dependency).or
        (gaugeOf { signals := told } dependency) := by
  unfold gaugeOf gaugings
  rw [List.filterMap_append, List.reverse_append, List.find?_append,
    Option.map_or]

end Telemetry

end Tollgate
