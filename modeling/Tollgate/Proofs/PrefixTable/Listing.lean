import Tollgate.Config.Load
import Tollgate.Proofs.PrefixTable
import Tollgate.Session.Run

/-!
In which order the entries of a table are listed. Prices come from a map, whose
entries are listed in any order. That makes a difference only between entries
that are the same in lower case: the first of them counts.
-/

namespace Tollgate

namespace PrefixTable

variable {α : Type} {order : String × α → String × α → Bool}
  {listed others : List (String × α)} {name : String} {fallback : α}

/-- The longest entries that begin the name agree on its value. -/
def Settles (listed : List (String × α)) (name : String) : Prop :=
  ∀ e other, Longest listed name e → Longest listed name other → e.2 = other.2

namespace Longest

variable {e other : String × α}

theorem perm (long : Longest listed name e) (moved : others.Perm listed) :
    Longest others name e where
  mem := moved.mem_iff.mpr long.mem
  begins := long.begins
  longest third member := long.longest third (moved.mem_iff.mp member)

theorem exists_applies (long : Longest listed name e) :
    ∃ others, others.Perm listed ∧ Applies others name e := by
  obtain ⟨before, after, rfl⟩ := List.append_of_mem long.mem
  have front : (e :: (before ++ after)).Perm (before ++ e :: after) :=
    List.perm_middle.symm
  refine ⟨e :: (before ++ after), front, long.begins,
    (long.perm front).longest, ?_⟩
  exact List.find?_cons_of_pos (decide_eq_true rfl)

theorem self (member : e ∈ listed) (same : lowercase other.1 = lowercase e.1) :
    Longest listed other.1 e where
  mem := member
  begins := ⟨[], by rw [List.append_nil, same]⟩
  longest third _ begins := by
    obtain ⟨rest, whole⟩ := exists_append_of_prefix begins
    rw [← same, ← whole, String.utf8ByteSize_append]
    exact Nat.le_add_right _ _

end Longest

/-! What a table makes of the order -/

theorem lookup_settled_iff (lawful : LongestFirst order) :
    (∀ others, others.Perm listed →
      (ofList order others fallback).lookup name =
        (ofList order listed fallback).lookup name) ↔
      Settles listed name := by
  have answers (others : List (String × α)) :=
    answersBy_ofList lawful others fallback
  constructor
  · intro same
    have value (e : String × α) (long : Longest listed name e) :
        e.2 = (ofList order listed fallback).lookup name := by
      obtain ⟨others, moved, applies⟩ := long.exists_applies
      rw [← same others moved, (answers others).lookup_of_applies applies]
    intro e other one two
    rw [value e one, value other two]
  · intro settled others moved
    by_cases matched : ∃ e ∈ listed, Begins name e
    · obtain ⟨e, applies, -, value⟩ := (answers listed).applied name matched
      obtain ⟨first, member, begins⟩ := matched
      obtain ⟨other, otherApplies, -, otherValue⟩ :=
        (answers others).applied name
          ⟨first, moved.mem_iff.mpr member, begins⟩
      rw [value, otherValue]
      apply settled other e
      · exact otherApplies.isLongest.perm moved.symm
      · exact applies.isLongest
    · have unmatched : ∀ e ∈ listed, ¬ Begins name e :=
        fun e member begins => matched ⟨e, member, begins⟩
      rw [(answers listed).lookup_of_unmatched unmatched]
      apply (answers others).lookup_of_unmatched
      intro e member
      exact unmatched e (moved.mem_iff.mp member)

/-- All names have one value each exactly if entries that are the same in lower
case have. -/
theorem settles_iff :
    (∀ name, Settles listed name) ↔
      ∀ e ∈ listed, ∀ other ∈ listed,
        lowercase e.1 = lowercase other.1 → e.2 = other.2 := by
  constructor
  · intro settled e member other otherMember same
    apply settled e.1 e other
    · exact .self member rfl
    · exact .self otherMember same
  · intro agree name e other one two
    exact agree e one.mem other two.mem (one.lowercase_eq two)

end PrefixTable

open PrefixTable

/-- A session whose calls are priced by another table. -/
def Session.priced (s : Session) (prices : PriceTable) : Session :=
  { s with gate := { s.gate with prices } }

/-- Whatever the order in which its prices are listed, a model has the same
price exactly if the longest entries that begin its name agree, and then its
calls are charged the same. All models have one price each exactly if entries
that are the same in lower case agree. -/
theorem same_price_in_any_order_iff (p : PricingSettings) :
    (∀ model,
      ((∀ listed, listed.Perm p.models.entries →
          (p.tableOf listed).lookup model = p.table.lookup model) ↔
        Settles p.models.entries model) ∧
      (Settles p.models.entries model →
        ∀ listed, listed.Perm p.models.entries →
          ∀ (s : Session) (inputTokens maxOutputTokens : Nat),
            (s.priced (p.tableOf listed)).price
                (.model model inputTokens maxOutputTokens) =
              (s.priced p.table).price
                (.model model inputTokens maxOutputTokens))) ∧
    ((∀ model listed, listed.Perm p.models.entries →
        (p.tableOf listed).lookup model = p.table.lookup model) ↔
      ∀ e ∈ p.models.entries, ∀ other ∈ p.models.entries,
        lowercase e.1 = lowercase other.1 → e.2 = other.2) := by
  have settled (model : String) :
      (∀ listed, listed.Perm p.models.entries →
        (p.tableOf listed).lookup model = p.table.lookup model) ↔
      Settles p.models.entries model :=
    lookup_settled_iff longestFirst_ranksFirst
  refine ⟨?_, ?_⟩
  · intro model
    refine ⟨settled model, ?_⟩
    intro agree listed moved s inputTokens maxOutputTokens
    have price := (settled model).mpr agree listed moved
    change (_, ((p.tableOf listed).lookup model).estimate _ _) =
      (_, (p.table.lookup model).estimate _ _)
    rw [price]
    rfl
  · rw [← settles_iff]
    exact forall_congr' settled

/-- Two entries that are the same in lower case have the same price, a longer
one has another. Listed the other way round, they give a model the price that it
had, and its calls the same cost. -/
theorem same_price_in_any_order_twice :
    let p : PricingSettings := {
      models := ⟨[("GPT-4", ⟨10, 30⟩), ("gpt-4", ⟨10, 30⟩),
        ("gpt-4o", ⟨2.5, 10⟩)], by decide⟩ }
    let listed : List (String × TokenPrice) :=
      [("gpt-4o", ⟨2.5, 10⟩), ("gpt-4", ⟨10, 30⟩), ("GPT-4", ⟨10, 30⟩)]
    listed.Perm p.models.entries ∧ Settles p.models.entries "gpt-4-turbo" ∧
      (((Session.ofSettings {}).priced (p.tableOf listed)).price
          (.model "gpt-4-turbo" 1000000 0)).2 = 10 := by
  intro p listed
  have moved : listed.Perm p.models.entries :=
    List.reverse_perm p.models.entries
  have agree : ∀ e ∈ p.models.entries, ∀ other ∈ p.models.entries,
      lowercase e.1 = lowercase other.1 → e.2 = other.2 := by
    have apart : lowercase "gpt-4o" ≠ "gpt-4" := by decide +kernel
    have capital : lowercase "GPT-4" = "gpt-4" := by decide +kernel
    have small : lowercase "gpt-4" = "gpt-4" := by decide +kernel
    simp [p, capital, small, apart, apart.symm]
  obtain ⟨each, -⟩ := same_price_in_any_order_iff p
  have settled : Settles p.models.entries "gpt-4-turbo" :=
    settles_iff.mpr agree "gpt-4-turbo"
  refine ⟨moved, settled, ?_⟩
  rw [(each "gpt-4-turbo").2 settled listed moved]
  decide +kernel

/-- Prices that are accepted, and that differ between two spellings of one
beginning. A model of just that name has the price of the spelling that is
listed first. -/
theorem price_depends_on_order :
    let p : PricingSettings := {
      models := ⟨[("GPT-4", ⟨10, 30⟩), ("gpt-4", ⟨1, 1⟩)], by decide⟩ }
    let listed : List (String × TokenPrice) :=
      [("gpt-4", ⟨1, 1⟩), ("GPT-4", ⟨10, 30⟩)]
    ({ pricing := p : Settings }.violations = [] ∧
      listed.Perm p.models.entries) ∧
      p.table.estimate "gpt-4" 1000000 0 = 10 ∧
      (p.tableOf listed).estimate "gpt-4" 1000000 0 = 1 := by
  intro p listed
  refine ⟨⟨by decide +kernel, .swap _ _ _⟩, ?_, ?_⟩
  · decide +kernel
  · decide +kernel

end Tollgate
