import Mathlib.Data.List.TakeWhile
import Tollgate.Text.Lowercase

/-!
When lower-casing keeps a beginning. The lower case of a text begins that of a
longer one, unless the text breaks off a word just behind a capital sigma: at
the end of a word a sigma is written otherwise than within it.
-/

namespace Tollgate

namespace LetterCase

variable {c : Char} {reversed text rest : List Char}

theorem startsCased_append (text rest : List Char) :
    startsCased (text ++ rest) =
      if text.all isIgnorable then startsCased rest else startsCased text := by
  unfold startsCased
  rw [List.dropWhile_append]
  cases dropped : text.dropWhile isIgnorable with
  | nil =>
      rw [List.dropWhile_eq_nil_iff] at dropped
      rw [if_pos (List.all_eq_true.mpr dropped)]
      rfl
  | cons first others =>
      have some : ¬ text.all isIgnorable = true := by
        intro all
        have none := List.dropWhile_eq_nil_iff.mpr (List.all_eq_true.mp all)
        rw [dropped] at none
        cases none
      rw [if_neg some]
      rfl

theorem startsCased_of_all (all : text.all isIgnorable) :
    startsCased text = false := by
  have none := startsCased_append text []
  rw [List.append_nil, if_pos all] at none
  exact none

/-- A sigma with this text behind it ends a word, and the word goes on in the
rest. -/
def GoesOn (reversed text rest : List Char) : Prop :=
  startsCased reversed ∧ text.all isIgnorable ∧ startsCased rest

theorem finalSigma_append_of_not_goesOn (closed : ¬ GoesOn reversed text rest) :
    finalSigma reversed (text ++ rest) = finalSigma reversed text := by
  unfold finalSigma
  rw [startsCased_append]
  split
  · rename_i all
    rw [startsCased_of_all all]
    cases before : startsCased reversed with
    | false => rfl
    | true =>
        have after : startsCased rest = false :=
          Bool.eq_false_iff.mpr fun goes => closed ⟨before, all, goes⟩
        rw [after]
  · rfl

theorem finalSigma_of_goesOn (goes : GoesOn reversed text rest) :
    finalSigma reversed text = true ∧
      finalSigma reversed (text ++ rest) = false := by
  obtain ⟨before, all, after⟩ := goes
  unfold finalSigma
  rw [startsCased_append, if_pos all, startsCased_of_all all, before, after]
  exact ⟨rfl, rfl⟩

/-- The last capital sigma of a text ends a word in it that goes on in the
rest. -/
def BreaksOff (reversed text rest : List Char) : Prop :=
  ∃ before after, text = before ++ 'Σ' :: after ∧
    GoesOn (before.reverse ++ reversed) after rest

theorem breaksOff_cons :
    BreaksOff reversed (c :: text) rest ↔
      (c = 'Σ' ∧ GoesOn reversed text rest) ∨
        BreaksOff (c :: reversed) text rest := by
  constructor
  · rintro ⟨before, after, split, goes⟩
    cases before with
    | nil =>
        cases split
        exact .inl ⟨rfl, goes⟩
    | cons first before =>
        cases split
        rw [List.reverse_cons, List.append_assoc] at goes
        exact .inr ⟨before, after, rfl, goes⟩
  · rintro (⟨rfl, goes⟩ | ⟨before, after, rfl, goes⟩)
    · exact ⟨[], text, rfl, goes⟩
    · refine ⟨c :: before, after, rfl, ?_⟩
      rw [List.reverse_cons, List.append_assoc]
      exact goes

def lowered (c : Char) : List Char :=
  if c = 'İ' then ['i', '\u0307'] else [lowerChar c]

theorem lowerAfter_cons_of_ne (other : c ≠ 'Σ') (text : List Char) :
    lowerAfter reversed (c :: text) =
      lowered c ++ lowerAfter (c :: reversed) text := by
  rw [lowerAfter, if_neg other]
  rfl

theorem lowerAfter_sigma (reversed text : List Char) :
    lowerAfter reversed ('Σ' :: text) =
      (if finalSigma reversed text then 'ς' else 'σ') ::
        lowerAfter ('Σ' :: reversed) text := by
  rw [lowerAfter, if_pos rfl]
  rfl

theorem lowerAfter_isPrefix_iff :
    lowerAfter reversed text <+: lowerAfter reversed (text ++ rest) ↔
      ¬ BreaksOff reversed text rest := by
  induction text generalizing reversed with
  | nil =>
      refine iff_of_true List.nil_prefix ?_
      rintro ⟨before, after, split, -⟩
      exact List.append_ne_nil_of_right_ne_nil _ (List.cons_ne_nil _ _)
        split.symm
  | cons c text ih =>
      rw [List.cons_append, breaksOff_cons, not_or]
      by_cases sigma : c = 'Σ'
      · subst sigma
        rw [lowerAfter_sigma, lowerAfter_sigma, List.cons_prefix_cons, ih]
        by_cases goes : GoesOn reversed text rest
        · -- The one sigma that is written in two ways.
          obtain ⟨ends, continues⟩ := finalSigma_of_goesOn goes
          rw [ends, continues]
          refine iff_of_false ?_ fun not => not.1 ⟨rfl, goes⟩
          rintro ⟨same, -⟩
          revert same
          decide
        · rw [finalSigma_append_of_not_goesOn goes]
          simp [goes]
      · rw [lowerAfter_cons_of_ne sigma, lowerAfter_cons_of_ne sigma,
          List.prefix_append_right_inj, ih]
        simp [sigma]

end LetterCase

open LetterCase

/-- The text breaks off a word just behind a capital sigma, and the rest goes on
with it. Between the two, and in front of the rest, there may be marks that case
looks through. -/
def BreaksAtSigma (text rest : String) : Prop :=
  BreaksOff [] text.toList rest.toList

theorem lowercase_isPrefix_iff {text rest : String} :
    (lowercase text).toList <+: (lowercase (text ++ rest)).toList ↔
      ¬ BreaksAtSigma text rest := by
  unfold lowercase BreaksAtSigma
  rw [String.toList_ofList, String.toList_ofList, String.toList_append]
  exact lowerAfter_isPrefix_iff

theorem not_breaksAtSigma {text : String} (none : 'Σ' ∉ text.toList)
    (rest : String) : ¬ BreaksAtSigma text rest := by
  rintro ⟨before, after, split, -⟩
  apply none
  rw [split]
  exact List.mem_append_right _ List.mem_cons_self

end Tollgate
