import Mathlib.Data.List.Nodup
import Tollgate.PrefixTable

/-!
Which entry of a table applies to a name. Tables are sorted, by length alone or
by text as well, and the first beginning that fits is taken: that is the longest
there is, and of beginnings that are the same in lower case the first listed.
-/

namespace Tollgate

namespace PrefixTable

variable {α β : Type} {name : String}
  {order : String × α → String × α → Bool} {listed others : List (String × α)}
  {fallback : α}

/-! Beginnings that fit -/

/-- The beginning of a listed entry begins a name, in any letter case. -/
def Begins (name : String) (e : String × α) : Prop :=
  (lowercase e.1).toList <+: (lowercase name).toList

theorem fits_iff_isPrefixed {beginning : String} :
    fits beginning name ↔ beginning.toList <+: (lowercase name).toList :=
  List.isPrefixOf_iff_prefix

theorem exists_append_of_prefix {first second : String}
    (begins : first.toList <+: second.toList) :
    ∃ rest, first ++ rest = second := by
  obtain ⟨rest, whole⟩ := begins
  refine ⟨String.ofList rest, ?_⟩
  rw [← String.toList_inj, String.toList_append, String.toList_ofList, whole]

theorem eq_of_prefix_of_size_eq {first second : String} {text : List Char}
    (one : first.toList <+: text) (other : second.toList <+: text)
    (same : first.utf8ByteSize = second.utf8ByteSize) : first = second := by
  wlog shorter : first.toList <+: second.toList generalizing first second
  · have longer :=
      (List.prefix_or_prefix_of_prefix one other).resolve_left shorter
    exact (this other one same.symm longer).symm
  · obtain ⟨rest, split⟩ := exists_append_of_prefix shorter
    have nothing : rest.utf8ByteSize = 0 := by
      rw [← split, String.utf8ByteSize_append] at same
      omega
    rw [← split, String.utf8ByteSize_eq_zero_iff.mp nothing,
      String.append_empty]

/-! The orders -/

/-- Longer beginnings come first, and the same text is equal to itself whatever
stands for it. -/
structure LongestFirst (order : String × α → String × α → Bool) : Prop where
  total : ∀ a b, order a b || order b a
  trans : ∀ a b c, order a b → order b c → order a c
  longer : ∀ a b, order a b → b.1.utf8ByteSize ≤ a.1.utf8ByteSize
  equal : ∀ a b, a.1 = b.1 → order a b

theorem longestFirst_notShorter :
    LongestFirst (notShorter : String × α → String × α → Bool) where
  total a b := by
    simp only [notShorter, Bool.or_eq_true, decide_eq_true_eq]
    omega
  trans a b c := by
    simp only [notShorter, decide_eq_true_eq]
    omega
  longer a b := by
    simp only [notShorter, decide_eq_true_eq, imp_self]
  equal a b same := by
    simp only [notShorter, same, Nat.le_refl, decide_true]

theorem ranksFirst_iff {a b : String × α} :
    ranksFirst a b ↔ b.1.utf8ByteSize < a.1.utf8ByteSize ∨
      b.1.utf8ByteSize = a.1.utf8ByteSize ∧ a.1 ≤ b.1 := by
  simp only [ranksFirst, Bool.or_eq_true, Bool.and_eq_true, decide_eq_true_eq]

theorem longestFirst_ranksFirst :
    LongestFirst (ranksFirst : String × α → String × α → Bool) where
  total a b := by
    rw [Bool.or_eq_true, ranksFirst_iff, ranksFirst_iff]
    rcases Nat.lt_trichotomy b.1.utf8ByteSize a.1.utf8ByteSize with
      longer | same | shorter
    · exact .inl (.inl longer)
    · exact (String.le_total a.1 b.1).imp (fun before => .inr ⟨same, before⟩)
        fun before => .inr ⟨same.symm, before⟩
    · exact .inr (.inl shorter)
  trans a b c first second := by
    rw [ranksFirst_iff] at first second ⊢
    rcases first with longer | ⟨same, before⟩
    · left
      omega
    · rcases second with longer | ⟨again, later⟩
      · left
        omega
      · exact .inr ⟨again.trans same, String.le_trans before later⟩
  longer a b first := by
    rw [ranksFirst_iff] at first
    omega
  equal a b same := by
    rw [ranksFirst_iff, same]
    exact .inr ⟨rfl, String.le_refl b.1⟩

/-! The entry that applies -/

/-- Of the entries listed, this one begins a name, and none that does is
longer. -/
structure Longest (listed : List (String × α)) (name : String)
    (e : String × α) : Prop where
  mem : e ∈ listed
  begins : Begins name e
  longest : ∀ other ∈ listed, Begins name other →
    (lowercase other.1).utf8ByteSize ≤ (lowercase e.1).utf8ByteSize

theorem Longest.lowercase_eq {e other : String × α}
    (one : Longest listed name e)
    (two : Longest listed name other) : lowercase e.1 = lowercase other.1 :=
  eq_of_prefix_of_size_eq one.begins two.begins
    (Nat.le_antisymm (two.longest e one.mem one.begins)
      (one.longest other two.mem two.begins))

/-- Of the entries listed, this one is to apply to a name: it begins the name,
none that does is longer, and none listed before it is the same in lower
case. -/
structure Applies (listed : List (String × α)) (name : String)
    (e : String × α) : Prop where
  begins : Begins name e
  longest : ∀ other ∈ listed, Begins name other →
    (lowercase other.1).utf8ByteSize ≤ (lowercase e.1).utf8ByteSize
  first : listed.find? (fun other => lowercase other.1 = lowercase e.1) =
    some e

theorem Applies.mem {e : String × α} (applies : Applies listed name e) :
    e ∈ listed := List.mem_of_find?_eq_some applies.first

theorem Applies.isLongest {e : String × α} (applies : Applies listed name e) :
    Longest listed name e :=
  ⟨applies.mem, applies.begins, applies.longest⟩

theorem Applies.unique {e other : String × α} (one : Applies listed name e)
    (two : Applies listed name other) : e = other := by
  have first := one.first
  rw [one.isLongest.lowercase_eq two.isLongest, two.first] at first
  exact (Option.some.inj first).symm

theorem Applies.transfer {e : String × α} (applies : Applies listed name e)
    (moved : others.Perm listed)
    (kept : ∀ text, others.filter (fun other => lowercase other.1 = text) =
      listed.filter (fun other => lowercase other.1 = text)) :
    Applies others name e where
  begins := applies.begins
  longest other member :=
    applies.longest other (moved.mem_iff.mp member)
  first := by
    rw [← List.head?_filter, kept, List.head?_filter]
    exact applies.first

/-! What tables answer -/

theorem mem_entries_ofList {found : String × α} :
    found ∈ (ofList order listed fallback).entries ↔
      ∃ e ∈ listed, (lowercase e.1, e.2) = found := by
  rw [ofList, (sortBy_perm _ _).mem_iff, List.mem_map]

/-- Sorting leaves the entries with one text in the order of their listing. -/
theorem find?_entries_ofList (lawful : LongestFirst order) (text : String) :
    (ofList order listed fallback).entries.find? (·.1 = text) =
      (listed.find? (fun e => lowercase e.1 = text)).map
        fun e => (lowercase e.1, e.2) := by
  have kept : (ofList order listed fallback).entries.filter (·.1 = text) = _ :=
    filter_sortBy (fun a b one other => lawful.equal a b
      ((of_decide_eq_true one).trans (of_decide_eq_true other).symm)) _
  rw [← List.head?_filter, kept, List.head?_filter, List.find?_map]
  rfl

theorem applies_of_entryFor? (lawful : LongestFirst order)
    {found : String × α}
    (answer : (ofList order listed fallback).entryFor? name = some found) :
    ∃ e, Applies listed name e ∧ (lowercase e.1, e.2) = found := by
  obtain ⟨fit, before, after, split, unfit⟩ :=
    List.find?_eq_some_iff_append.mp answer
  have sorted : (ofList order listed fallback).entries.Pairwise (order · ·) :=
    sortBy_pairwise lawful.total lawful.trans _
  -- No entry before it fits, so none has its text: it is the first that does.
  have first :
      (ofList order listed fallback).entries.find? (·.1 = found.1) =
        some found := by
    rw [List.find?_eq_some_iff_append]
    refine ⟨decide_eq_true rfl, before, after, split, ?_⟩
    intro earlier member
    rw [Bool.not_eq_true', decide_eq_false_iff_not]
    intro same
    have unfit := unfit earlier member
    rw [same, fit] at unfit
    cases unfit
  rw [find?_entries_ofList lawful, Option.map_eq_some_iff] at first
  obtain ⟨e, chosen, rfl⟩ := first
  refine ⟨e, ⟨fits_iff_isPrefixed.mp fit, ?_, chosen⟩, rfl⟩
  intro other member begins
  have listedToo : (lowercase other.1, other.2) ∈
      (ofList order listed fallback).entries :=
    mem_entries_ofList.mpr ⟨other, member, rfl⟩
  rw [split] at listedToo sorted
  rcases List.mem_append.mp listedToo with earlier | later
  · have unfit := unfit _ earlier
    rw [fits_iff_isPrefixed.mpr begins] at unfit
    cases unfit
  · rcases List.mem_cons.mp later with same | later
    · exact Nat.le_of_eq (congrArg (·.1.utf8ByteSize) same)
    · have behind := (List.pairwise_append.mp sorted).2.1
      exact lawful.longer _ _ ((List.pairwise_cons.mp behind).1 _ later)

theorem entryFor?_eq_none_iff :
    (ofList order listed fallback).entryFor? name = none ↔
      ∀ e ∈ listed, ¬ Begins name e := by
  rw [entryFor?, List.find?_eq_none]
  constructor
  · intro unfit e member begins
    exact unfit _ (mem_entries_ofList.mpr ⟨e, member, rfl⟩)
      (fits_iff_isPrefixed.mpr begins)
  · intro none found sorted fit
    obtain ⟨e, member, rfl⟩ := mem_entries_ofList.mp sorted
    exact none e member (fits_iff_isPrefixed.mp fit)

/-- A table answers every name by the entry that is to apply to it, and by its
fallback just if no beginning is one of the name. -/
structure AnswersBy (t : PrefixTable α) (listed : List (String × α))
    (fallback : α) : Prop where
  applied : ∀ name, (∃ e ∈ listed, Begins name e) →
    ∃ e, Applies listed name e ∧
      t.entryFor? name = some (lowercase e.1, e.2) ∧ t.lookup name = e.2
  unmatched : ∀ name, t.entryFor? name = none ↔ ∀ e ∈ listed, ¬ Begins name e
  fellBack : ∀ name, t.entryFor? name = none → t.lookup name = fallback

theorem answersBy_ofList (lawful : LongestFirst order)
    (listed : List (String × α)) (fallback : α) :
    AnswersBy (ofList order listed fallback) listed fallback where
  applied name := by
    rintro ⟨e, member, begins⟩
    have found : (ofList order listed fallback).entryFor? name ≠ none :=
      fun none => entryFor?_eq_none_iff.mp none e member begins
    obtain ⟨found, answer⟩ := Option.ne_none_iff_exists'.mp found
    obtain ⟨e, applies, rfl⟩ := applies_of_entryFor? lawful answer
    exact ⟨e, applies, answer, by rw [lookup, answer]; rfl⟩
  unmatched name := entryFor?_eq_none_iff
  fellBack name unmatched := by
    rw [lookup, unmatched]
    rfl

namespace AnswersBy

variable {t u : PrefixTable α} {v : PrefixTable β}
  {entries : List (String × β)} {other : β}

theorem lookup_of_applies (answers : AnswersBy t listed fallback)
    {e : String × α} (applies : Applies listed name e) :
    t.lookup name = e.2 := by
  obtain ⟨chosen, chosenApplies, -, value⟩ :=
    answers.applied name ⟨e, applies.mem, applies.begins⟩
  rw [value, chosenApplies.unique applies]

theorem lookup_of_unmatched (answers : AnswersBy t listed fallback)
    (unmatched : ∀ e ∈ listed, ¬ Begins name e) : t.lookup name = fallback :=
  answers.fellBack name ((answers.unmatched name).mpr unmatched)

theorem lookup_forall {P : α → Prop} (answers : AnswersBy t listed fallback)
    (entries : ∀ e ∈ listed, P e.2) (other : P fallback) (name : String) :
    P (t.lookup name) := by
  by_cases matched : ∃ e ∈ listed, Begins name e
  · obtain ⟨e, applies, -, value⟩ := answers.applied name matched
    rw [value]
    exact entries e applies.mem
  · have unmatched : ∀ e ∈ listed, ¬ Begins name e :=
      fun e member begins => matched ⟨e, member, begins⟩
    rw [answers.lookup_of_unmatched unmatched]
    exact other

/-- Listed in another order, entries get the same answers, unless some that are
the same in lower case have changed places. -/
theorem lookup_eq (answers : AnswersBy t listed fallback)
    (again : AnswersBy u others fallback) (moved : others.Perm listed)
    (kept : ∀ text, others.filter (fun e => lowercase e.1 = text) =
      listed.filter (fun e => lowercase e.1 = text)) (name : String) :
    u.lookup name = t.lookup name := by
  by_cases matched : ∃ e ∈ listed, Begins name e
  · obtain ⟨e, applies, -, value⟩ := answers.applied name matched
    rw [value]
    exact again.lookup_of_applies (applies.transfer moved kept)
  · have unmatched : ∀ e ∈ listed, ¬ Begins name e :=
      fun e member begins => matched ⟨e, member, begins⟩
    rw [answers.lookup_of_unmatched unmatched]
    exact again.lookup_of_unmatched fun e member =>
      unmatched e (moved.mem_iff.mp member)

end AnswersBy

/-! Tables with the same beginnings -/

theorem find?_of_mem_of_nodup {key : β → String} {list : List β} {x : β}
    (distinct : (list.map key).Nodup) (member : x ∈ list) :
    list.find? (fun other => key other = key x) = some x := by
  have some : (list.find? fun other => key other = key x).isSome :=
    List.find?_isSome.mpr ⟨x, member, decide_eq_true rfl⟩
  obtain ⟨found, chosen⟩ := Option.isSome_iff_exists.mp some
  have alike : key found = key x := by simpa using List.find?_some chosen
  rw [chosen, List.inj_on_of_nodup_map distinct
    (List.mem_of_find?_eq_some chosen) member alike]

theorem Applies.of_same_beginnings {entries : List (String × β)}
    {e : String × α} (applies : Applies listed name e)
    (same : (listed.map (·.1)).Perm (entries.map (·.1)))
    (distinct : (entries.map fun other => lowercase other.1).Nodup) :
    ∃ value, Applies entries name (e.1, value) := by
  obtain ⟨twin, member, alike⟩ :=
    List.mem_map.mp (same.mem_iff.mp (List.mem_map_of_mem applies.mem))
  have whole : (e.1, twin.2) = twin := by rw [← alike]
  refine ⟨twin.2, ?_⟩
  rw [whole]
  refine ⟨?_, ?_, find?_of_mem_of_nodup distinct member⟩
  · rw [Begins, alike]
    exact applies.begins
  · intro other otherMember begins
    obtain ⟨third, thirdMember, too⟩ :=
      List.mem_map.mp (same.mem_iff.mpr (List.mem_map_of_mem otherMember))
    have shorter := applies.longest third thirdMember
    rw [Begins, too] at shorter
    rw [alike]
    exact shorter begins

theorem applies_iff_of_same_beginnings {entries : List (String × β)}
    (same : (listed.map (·.1)).Perm (entries.map (·.1)))
    (distinct : (listed.map fun e => lowercase e.1).Nodup)
    (name beginning : String) :
    (∃ value, Applies listed name (beginning, value)) ↔
      ∃ value, Applies entries name (beginning, value) := by
  have lowered := same.map lowercase
  rw [List.map_map, List.map_map] at lowered
  constructor
  · rintro ⟨value, applies⟩
    exact applies.of_same_beginnings same (lowered.nodup_iff.mp distinct)
  · rintro ⟨value, applies⟩
    exact applies.of_same_beginnings same.symm distinct

theorem AnswersBy.beginning_eq {t : PrefixTable α} {u : PrefixTable β}
    {entries : List (String × β)} {other : β}
    (answers : AnswersBy t listed fallback) (too : AnswersBy u entries other)
    (same : ∀ beginning, (∃ value, Applies listed name (beginning, value)) ↔
      ∃ value, Applies entries name (beginning, value)) :
    (t.entryFor? name).map (·.1) = (u.entryFor? name).map (·.1) := by
  by_cases matched : ∃ e ∈ listed, Begins name e
  · obtain ⟨⟨beginning, value⟩, applies, answer, -⟩ :=
      answers.applied name matched
    obtain ⟨twin, twinApplies⟩ := (same beginning).mp ⟨value, applies⟩
    obtain ⟨chosen, chosenApplies, twinAnswer, -⟩ :=
      too.applied name ⟨_, twinApplies.mem, twinApplies.begins⟩
    rw [answer, twinAnswer, ← twinApplies.unique chosenApplies]
    rfl
  · have unmatched : ∀ e ∈ listed, ¬ Begins name e :=
      fun e member begins => matched ⟨e, member, begins⟩
    have unmatchedToo : ∀ e ∈ entries, ¬ Begins name e := by
      intro e member begins
      obtain ⟨chosen, applies, -, -⟩ := too.applied name ⟨e, member, begins⟩
      obtain ⟨value, back⟩ := (same chosen.1).mpr ⟨chosen.2, applies⟩
      exact unmatched _ back.mem back.begins
    rw [(answers.unmatched name).mpr unmatched,
      (too.unmatched name).mpr unmatchedToo]
    rfl

end PrefixTable

open PrefixTable

theorem RoutingSettings.answersBy_table (r : RoutingSettings) :
    AnswersBy r.table (r.rules.map (·.entry)) r.defaultProvider :=
  answersBy_ofList longestFirst_notShorter _ _

theorem PricingSettings.answersBy_tableOf (p : PricingSettings)
    (listed : List (String × TokenPrice)) :
    AnswersBy (p.tableOf listed) listed p.fallback :=
  answersBy_ofList longestFirst_ranksFirst _ _

/-- The longest beginning wins, among the rules for providers and among prices,
in whatever order the prices are listed. Rules can change places unless they are
the same in lower case. And where prices are set for just the beginnings that
there are rules for, distinct in lower case, a model has its provider and its
price by the same beginning. -/
theorem longest_beginning_wins :
    (∀ r : RoutingSettings,
      AnswersBy r.table (r.rules.map (·.entry)) r.defaultProvider ∧
        ∀ rules : List RoutingRule, rules.Perm r.rules →
          (∀ text,
            rules.filter (fun rule => lowercase rule.modelPrefix = text) =
              r.rules.filter (fun rule => lowercase rule.modelPrefix = text)) →
          ∀ model, (RoutingSettings.table { r with rules }).lookup model =
            r.table.lookup model) ∧
    (∀ (p : PricingSettings) (listed : List (String × TokenPrice)),
      listed.Perm p.models.entries →
        AnswersBy (p.tableOf listed) listed p.fallback) ∧
    ∀ (r : RoutingSettings) (p : PricingSettings)
      (listed : List (String × TokenPrice)), listed.Perm p.models.entries →
      (r.rules.map (·.modelPrefix)).Perm p.models.keys →
      (r.rules.map fun rule => lowercase rule.modelPrefix).Nodup →
      ∀ model,
        (∀ beginning,
          (∃ provider,
            Applies (r.rules.map (·.entry)) model (beginning, provider)) ↔
          ∃ price, Applies listed model (beginning, price)) ∧
        (r.table.entryFor? model).map (·.1) =
          ((p.tableOf listed).entryFor? model).map (·.1) := by
  refine ⟨?_, ?_, ?_⟩
  · intro r
    refine ⟨r.answersBy_table, ?_⟩
    intro rules moved kept model
    refine r.answersBy_table.lookup_eq
      (RoutingSettings.answersBy_table { r with rules }) (moved.map _) ?_ model
    intro text
    rw [List.filter_map, List.filter_map]
    exact congrArg (List.map RoutingRule.entry) (kept text)
  · intro p listed _
    exact p.answersBy_tableOf listed
  · intro r p listed order same distinct model
    have beginnings : ((r.rules.map (·.entry)).map (·.1)).Perm
        (listed.map (·.1)) := by
      rw [List.map_map]
      exact same.trans (order.map Prod.fst).symm
    have apart : ((r.rules.map (·.entry)).map
        fun e => lowercase e.1).Nodup := by
      rw [List.map_map]
      exact distinct
    have alike := applies_iff_of_same_beginnings beginnings apart model
    exact ⟨alike, r.answersBy_table.beginning_eq (p.answersBy_tableOf listed)
      alike⟩

/-- The longer of two rules is listed last, in capitals, and is written once
more in small letters. With the shorter one moved to the end the answer is the
same; and with prices for the two beginnings, listed the other way round than
they are kept, the price is by the longer one too. -/
theorem longest_beginning_wins_in_any_case :
    let short : RoutingRule := ⟨"gpt-", "openai"⟩
    let long : RoutingRule := ⟨"GPT-4o", "azure"⟩
    let again : RoutingRule := ⟨"gpt-4O", "other"⟩
    let r : RoutingSettings := { rules := [short, long, again] }
    let moved := [long, again, short]
    let one : RoutingSettings := { rules := [short, long] }
    let p : PricingSettings := {
      models := ⟨[("GPT-4o", ⟨2.5, 10⟩), ("gpt-", ⟨10, 30⟩)], by decide⟩ }
    let listed : List (String × TokenPrice) :=
      [("gpt-", ⟨10, 30⟩), ("GPT-4o", ⟨2.5, 10⟩)]
    moved.Perm r.rules ∧ listed.Perm p.models.entries ∧
      (one.rules.map (·.modelPrefix)).Perm p.models.keys ∧
      (one.rules.map fun rule => lowercase rule.modelPrefix).Nodup ∧
      r.table.lookup "Gpt-4o-mini" = "azure" ∧
      (RoutingSettings.table { r with rules := moved }).lookup "Gpt-4o-mini" =
        "azure" ∧
      ((p.tableOf listed).entryFor? "Gpt-4o-mini").map (·.1) =
        some "gpt-4o" := by
  intro short long again r moved one p listed
  have perm : moved.Perm r.rules := by decide
  have kept : ∀ text, moved.filter (fun rule =>
        lowercase rule.modelPrefix = text) =
      r.rules.filter (fun rule => lowercase rule.modelPrefix = text) := by
    intro text
    have low : lowercase "gpt-" = "gpt-" := by decide +kernel
    by_cases same : "gpt-" = text
    · subst same
      decide +kernel
    · simp [moved, r, List.filter_cons, short, low, same]
  have order : listed.Perm p.models.entries := .swap _ _ _
  have same : (one.rules.map (·.modelPrefix)).Perm p.models.keys := by decide
  have distinct : (one.rules.map fun rule =>
      lowercase rule.modelPrefix).Nodup := by decide +kernel
  obtain ⟨routed, priced, alike⟩ := longest_beginning_wins
  have value : r.table.lookup "Gpt-4o-mini" = "azure" := by decide +kernel
  have taken : (one.table.entryFor? "Gpt-4o-mini").map (·.1) =
      some "gpt-4o" := by decide +kernel
  refine ⟨perm, order, same, distinct, value, ?_, ?_⟩
  · exact ((routed r).2 moved perm kept "Gpt-4o-mini").trans value
  · exact (alike one p listed order same distinct "Gpt-4o-mini").2.symm.trans
      taken

end Tollgate
