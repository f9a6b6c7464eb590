import Tollgate.Proofs.PrefixTable
import Tollgate.Proofs.Text.Lowercase

/-!
Names that begin with a beginning just as it is written. It fits them, unless it
breaks off a word just behind a capital sigma; and where it fits, no shorter one
and no fallback is taken in its place.
-/

namespace Tollgate

namespace PrefixTable

variable {α : Type} {t : PrefixTable α} {listed : List (String × α)}
  {fallback : α} {name : String} {e : String × α}

/-- The table answers the name by an entry that is listed and no shorter than
this one. -/
def PassesOver (t : PrefixTable α) (listed : List (String × α)) (name : String)
    (e : String × α) : Prop :=
  ∃ chosen ∈ listed,
    (lowercase e.1).utf8ByteSize ≤ (lowercase chosen.1).utf8ByteSize ∧
      t.entryFor? name = some (lowercase chosen.1, chosen.2) ∧
      t.lookup name = chosen.2

theorem AnswersBy.passesOver (answers : AnswersBy t listed fallback)
    (member : e ∈ listed) (begins : Begins name e) :
    PassesOver t listed name e := by
  obtain ⟨chosen, applies, entry, value⟩ :=
    answers.applied name ⟨e, member, begins⟩
  refine ⟨chosen, applies.mem, ?_, entry, value⟩
  exact applies.longest e member begins

/-- What is so of an entry and the names that begin with it as it is written. -/
def CountsAsWritten (t : PrefixTable α) (listed : List (String × α))
    (e : String × α) : Prop :=
  ∀ rest,
    (fits (lowercase e.1) (e.1 ++ rest) ↔ ¬ BreaksAtSigma e.1 rest) ∧
    (¬ BreaksAtSigma e.1 rest → PassesOver t listed (e.1 ++ rest) e)

theorem AnswersBy.countsAsWritten (answers : AnswersBy t listed fallback)
    (member : e ∈ listed) : CountsAsWritten t listed e := by
  intro rest
  refine ⟨fits_iff_isPrefixed.trans lowercase_isPrefix_iff, ?_⟩
  intro whole
  exact answers.passesOver member (lowercase_isPrefix_iff.mpr whole)

end PrefixTable

open PrefixTable

/-- Every rule fits the names that begin with it as it is written, and so does
every priced beginning, exactly if it does not break off a word at a capital
sigma; and then the name has its provider, or its price, by an entry that is no
shorter. Beginnings without a capital sigma never break off so. -/
theorem counts_as_written_iff (r : RoutingSettings) (p : PricingSettings) :
    (∀ rule ∈ r.rules,
      CountsAsWritten r.table (r.rules.map (·.entry)) rule.entry) ∧
    (∀ listed : List (String × TokenPrice), listed.Perm p.models.entries →
      ∀ e ∈ listed, CountsAsWritten (p.tableOf listed) listed e) ∧
    ∀ beginning : String, 'Σ' ∉ beginning.toList →
      ∀ rest, ¬ BreaksAtSigma beginning rest := by
  refine ⟨?_, ?_, ?_⟩
  · intro rule member
    apply r.answersBy_table.countsAsWritten
    exact List.mem_map_of_mem member
  · intro listed _ e member
    exact (p.answersBy_tableOf listed).countsAsWritten member
  · intro beginning none rest
    exact not_breaksAtSigma none rest

/-- A beginning that ends with a capital sigma, and a name that goes on with a
number. The sigma is written as at the end of a word in both. -/
theorem counts_as_written_before_number :
    let r : RoutingSettings :=
      { rules := [⟨"ΟΔΟ", "way"⟩, ⟨"ΟΔΟΣ", "street"⟩] }
    let p : PricingSettings := {
      models := ⟨[("ΟΔΟ", ⟨1, 1⟩), ("ΟΔΟΣ", ⟨2, 2⟩)], by decide⟩ }
    r.table.lookup "ΟΔΟΣ-4" = "street" ∧
      PassesOver r.table (r.rules.map (·.entry)) "ΟΔΟΣ-4" ("ΟΔΟΣ", "street") ∧
      PassesOver p.table p.models.entries "ΟΔΟΣ-4" ("ΟΔΟΣ", ⟨2, 2⟩) ∧
      ¬ BreaksAtSigma "gpt-" "4o" := by
  intro r p
  have whole : ¬ BreaksAtSigma "ΟΔΟΣ" "-4" := by
    rintro ⟨before, after, -, -, -, goes⟩
    revert goes
    decide +kernel
  obtain ⟨routed, priced, plain⟩ := counts_as_written_iff r p
  refine ⟨by decide +kernel, ?_, ?_, ?_⟩
  · have listed : ⟨"ΟΔΟΣ", "street"⟩ ∈ r.rules :=
      List.mem_cons_of_mem _ List.mem_cons_self
    exact (routed _ listed "-4").2 whole
  · have listed : ("ΟΔΟΣ", ⟨2, 2⟩) ∈ p.models.entries :=
      List.mem_cons_of_mem _ List.mem_cons_self
    exact (priced p.models.entries (.refl _) _ listed "-4").2 whole
  · exact plain "gpt-" (by decide) "4o"

/-- A rule whose beginning ends with a capital sigma, and a name in which the
word goes on: the name has the default provider, and the fallback price. -/
theorem falls_back_behind_sigma :
    let r : RoutingSettings := { rules := [⟨"ΑΣ", "hellas"⟩] }
    let p : PricingSettings := {
      models := ⟨[("ΑΣ", ⟨1, 1⟩)], by decide⟩ }
    BreaksAtSigma "ΑΣ" "Α" ∧
      r.table.entryFor? ("ΑΣ" ++ "Α") = none ∧
      r.table.lookup ("ΑΣ" ++ "Α") = r.defaultProvider ∧
      (p.table.entryFor? ("ΑΣ" ++ "Α")).isNone := by
  refine ⟨⟨['Α'], [], rfl, ?_⟩, ?_, ?_, ?_⟩
  · exact ⟨by decide +kernel, rfl, by decide +kernel⟩
  · decide +kernel
  · decide +kernel
  · decide +kernel

end Tollgate
