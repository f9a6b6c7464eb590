import Tollgate.Proofs.Toml.LongString
import Tollgate.Toml.Document

/-!
Values with more text behind them. A value comes out the same, unless the text
ends with it: then a number may be only its beginning, and a string in triple
quotes may be without the last quotes that belong to it, or not be told from an
empty one.
-/

namespace Tollgate.Toml

/-- How a string that was read too early is longer when the text goes on. -/
inductive Lengthened : String → String → Prop where
  | empty (whole : String) : Lengthened "" whole
  | quotes (read : String) (quote : Char) (count : Nat) (few : count ≤ 2) :
      Lengthened read (read ++ String.ofList (List.replicate count quote))

/-- What is read of a value where its text ends, and when more follows. -/
inductive Torn (text more : List Char) : Value → Value → Prop where
  | number {rest behind : List Char} {v w : Value}
      (beginning : numeric text = some (v, rest))
      (whole : numeric (text ++ more) = some (w, behind)) : Torn text more v w
  | string {rest behind : List Char} {read whole : String}
      (beginning : string text = some (read, rest))
      (all : string (text ++ more) = some (whole, behind))
      (longer : Lengthened read whole) :
      Torn text more (.string read) (.string whole)

/-- A scanner that reads the same when the text goes on, unless there was no
delimiter behind what it has read; then it was torn. -/
structure Stands {α : Type} (torn : List Char → List Char → α → α → Prop)
    (s : Scan α) : Prop where
  suffix : ∀ {text a rest}, s text = some (a, rest) → rest <:+ text
  stays : ∀ {text a rest}, s text = some (a, rest) → ∀ more,
    s (text ++ more) = some (a, rest ++ more) ∨
      (¬ Bounded rest ∧ ¬ ['\n'] <:+ text ∧
        ∀ b behind, s (text ++ more) = some (b, behind) → torn text more a b)

theorem Stands.stays_of_bounded {α : Type}
    {torn : List Char → List Char → α → α → Prop} {s : Scan α}
    (stands : Stands torn s) {text rest : List Char} {a : α}
    (found : s text = some (a, rest)) (bounded : Bounded rest)
    (more : List Char) : s (text ++ more) = some (a, rest ++ more) :=
  (stands.stays found more).resolve_right fun torn => torn.1 bounded

theorem ends_of_suffix {c : Char} {text whole : List Char}
    (ends : [c] <:+ whole) (inside : text <:+ whole) (full : text ≠ []) :
    [c] <:+ text := by
  obtain within | within := List.suffix_or_suffix_of_suffix ends inside
  · exact within
  · obtain none | all := List.suffix_cons_iff.mp within
    · rw [none]
    · exact absurd (List.suffix_nil.mp all) full

theorem ends_unique {c d : Char} {text : List Char} (ends : [c] <:+ text)
    (ends' : [d] <:+ text) : c = d := by
  have same := (List.suffix_of_suffix_length_le ends ends' (Nat.le_refl 1)).eq_of_length
    rfl
  exact (List.cons.inj same).1

/-! Strings -/

theorem dropFirstNewline_suffix (text : List Char) :
    dropFirstNewline text <:+ text := by
  unfold dropFirstNewline
  rcases ends : afterNewline? text with _ | rest
  · exact List.suffix_rfl
  · exact (afterNewline?_suffix ends).1

theorem dropFirstNewline_append {text : List Char}
    (full : dropFirstNewline text ≠ []) (decided : dropFirstNewline text ≠ ['\r'])
    (more : List Char) :
    dropFirstNewline (text ++ more) = dropFirstNewline text ++ more := by
  unfold dropFirstNewline at full decided ⊢
  rcases ends : afterNewline? text with _ | rest
  · rw [ends] at full decided
    rw [afterNewline?_append_of_none ends full decided]
    rfl
  · rw [afterNewline?_append ends]
    rfl

theorem prolonged_string {quote : Char} {scan : Nat → Scan (List Char)}
    (prolonged : ∀ {fuel enough text read rest}, fuel ≤ enough →
      scan fuel text = some (read, rest) → rest <:+ text ∧
        ∀ more, Prolonged quote text read rest more (scan enough (text ++ more)))
    (nothing : ∀ fuel, scan fuel [] = none)
    (single : ∀ fuel, scan fuel ['\r'] = none)
    {behind rest : List Char} {text : String}
    (found : asString (scan (behind.length + 1) (dropFirstNewline behind)) =
      some (text, rest)) :
    rest <:+ behind ∧ ∀ more,
      asString (scan ((behind ++ more).length + 1)
          (dropFirstNewline (behind ++ more))) = some (text, rest ++ more) ∨
        (rest = [] ∧ [quote] <:+ behind ∧
          ∀ whole behind', asString (scan ((behind ++ more).length + 1)
            (dropFirstNewline (behind ++ more))) = some (whole, behind') →
              Lengthened text whole) := by
  obtain ⟨read, inner, rfl⟩ := asString_eq_some.mp found
  have full : dropFirstNewline behind ≠ [] := by
    intro empty
    rw [empty, nothing] at inner
    cases inner
  have decided : dropFirstNewline behind ≠ ['\r'] := by
    intro alone
    rw [alone, single] at inner
    cases inner
  have inside := dropFirstNewline_suffix behind
  refine ⟨(prolonged (Nat.le_refl _) inner).1.trans inside, fun more => ?_⟩
  have longer : behind.length + 1 ≤ (behind ++ more).length + 1 := by
    rw [List.length_append]
    omega
  have prolonged := (prolonged longer inner).2 more
  rw [dropFirstNewline_append full decided]
  generalize scan _ (dropFirstNewline behind ++ more) = later at prolonged ⊢
  cases prolonged with
  | same => exact .inl rfl
  | quotes count others atEnd closed _ few =>
      refine .inr ⟨atEnd, closed.trans inside, ?_⟩
      rintro whole _ ⟨⟩
      rw [String.ofList_append]
      exact .quotes _ quote count few

theorem stays_of_prolonged {quote : Char} {scan : Nat → Scan (List Char)}
    (noFeed : quote ≠ '\n')
    (prolonged : ∀ {fuel enough text read rest}, fuel ≤ enough →
      scan fuel text = some (read, rest) → rest <:+ text ∧
        ∀ more, Prolonged quote text read rest more (scan enough (text ++ more)))
    (nothing : ∀ fuel, scan fuel [] = none)
    (single : ∀ fuel, scan fuel ['\r'] = none)
    {behind rest : List Char} {text : String}
    (found : asString (scan (behind.length + 1) (dropFirstNewline behind)) =
      some (text, rest)) (more : List Char) :
    asString (scan ((behind ++ more).length + 1)
        (dropFirstNewline (behind ++ more))) = some (text, rest ++ more) ∨
      (¬ Bounded rest ∧ ¬ ['\n'] <:+ quote :: quote :: quote :: behind ∧
        ∀ whole behind', asString (scan ((behind ++ more).length + 1)
          (dropFirstNewline (behind ++ more))) = some (whole, behind') →
            Lengthened text whole) := by
  obtain same | ⟨rfl, closed, torn⟩ :=
    (prolonged_string prolonged nothing single found).2 more
  · exact .inl same
  · refine .inr ⟨not_bounded_nil, fun ends => ?_, torn⟩
    have closed := closed.trans (List.suffix_append [quote, quote, quote] behind)
    exact noFeed (ends_unique ends closed).symm

theorem noThree_append {quote : Char} {behind : List Char}
    (noThree : ∀ rest, behind = quote :: quote :: rest → False)
    (full : behind ≠ []) (long : behind ≠ [quote]) (more : List Char) :
    ∀ rest, behind ++ more = quote :: quote :: rest → False := by
  intro rest three
  obtain _ | ⟨c, _ | ⟨d, others⟩⟩ := behind
  · exact full rfl
  · cases (List.cons.inj three).1
    exact long rfl
  · obtain ⟨rfl, three⟩ := List.cons.inj three
    obtain ⟨rfl, _⟩ := List.cons.inj three
    exact noThree others rfl

theorem stands_string :
    Stands (fun _ _ read whole => Lengthened read whole) string where
  suffix {text a rest} found := by
    unfold string at found
    split at found
    · exact (prolonged_string longBasicRest_prolonged longBasicRest_nil
        longBasicRest_return found).1.trans
        (List.suffix_append ['"', '"', '"'] _)
    · exact (closed_basicString.suffix found).trans (List.suffix_cons _ _)
    · exact (prolonged_string longLiteralRest_prolonged longLiteralRest_nil
        longLiteralRest_return found).1.trans
        (List.suffix_append ['\'', '\'', '\''] _)
    · exact (closed_literalString.suffix found).trans (List.suffix_cons _ _)
    · cases found
  stays {text a rest} found more := by
    unfold string at found
    split at found
    · exact stays_of_prolonged (by decide) longBasicRest_prolonged
        longBasicRest_nil longBasicRest_return found more
    · rename_i behind noThree
      by_cases short : behind = ['"']
      · subst short
        cases found
        exact .inr ⟨not_bounded_nil, by decide, fun whole _ _ => .empty whole⟩
      · have full : behind ≠ [] := by
          rintro rfl
          cases found
        left
        rw [List.cons_append, string]
        · exact closed_basicString.stays found more
        · exact noThree_append noThree full short more
    · exact stays_of_prolonged (by decide) longLiteralRest_prolonged
        longLiteralRest_nil longLiteralRest_return found more
    · rename_i behind noThree
      by_cases short : behind = ['\'']
      · subst short
        cases found
        exact .inr ⟨not_bounded_nil, by decide, fun whole _ _ => .empty whole⟩
      · have full : behind ≠ [] := by
          rintro rfl
          cases found
        left
        rw [List.cons_append, string]
        · exact closed_literalString.stays found more
        · exact noThree_append noThree full short more
    · cases found

/-! Values without brackets -/

section
variable {c : Char} (noDigit : isDecimalDigit c = false)
include noDigit

theorem fixedNumber_of_other (count : Nat) (rest : List Char) :
    fixedNumber (count + 1) (c :: rest) = none := by
  simp [fixedNumber, noDigit]

theorem wholeDigits_of_other (rest : List Char) :
    wholeDigits (c :: rest) = none := by
  have noZero : c ≠ '0' := by
    rintro rfl
    cases noDigit
  rw [wholeDigits]
  · simp [digitRun, noDigit]
  · simp [noZero]

theorem numeric_of_other (other : c ∉ ['+', '-', 'i', 'n']) (rest : List Char) :
    numeric (c :: rest) = none := by
  simp only [List.mem_cons, List.not_mem_nil, or_false, not_or] at other
  have noSign : sign (c :: rest) = (false, c :: rest) := by
    rw [sign] <;> simp [other]
  have noDate : datetime? (c :: rest) = none := by
    simp [datetime?, date?, time?, hourMinute?, fixedNumber_of_other noDigit]
  have noFloat : plainFloat (c :: rest) = none := by
    simp [plainFloat, noSign, wholeDigits_of_other noDigit]
  have noSpecial : specialFloat (c :: rest) = none := by
    simp [specialFloat, noSign, other]
  have noInteger : integer (c :: rest) = none := by
    have noZero : c ≠ '0' := by
      rintro rfl
      cases noDigit
    rw [integer]
    · simp [noSign, wholeDigits_of_other noDigit]
    all_goals simp [noZero]
  rw [numeric, noDate, noFloat, noSpecial, noInteger]
  rfl

end

def beginsNumber (c : Char) : Bool :=
  isDecimalDigit c || c == '+' || c == '-' || c == 'i' || c == 'n'

theorem beginsNumber_of_numeric {c : Char} {rest : List Char}
    {found : Value × List Char} (number : numeric (c :: rest) = some found) :
    beginsNumber c := by
  by_contra other
  simp only [beginsNumber, Bool.or_eq_true, beq_iff_eq, not_or,
    Bool.not_eq_true] at other
  rw [numeric_of_other other.1.1.1.1 (by simp [other])] at number
  cases number

theorem scalarValue_of_beginsNumber {c : Char} (begins : beginsNumber c)
    (rest : List Char) : scalarValue (c :: rest) = numeric (c :: rest) := by
  unfold scalarValue
  split
  all_goals first
    | rfl
    | (rename_i here
       cases (List.cons.inj here).1
       cases begins)

theorem scalarValue_cases {text rest : List Char} {v : Value}
    (found : scalarValue text = some (v, rest)) :
    (∃ quote behind read, text = quote :: behind ∧
        (quote = '"' ∨ quote = '\'') ∧ string text = some (read, rest) ∧
        v = .string read) ∨
      (text = 't' :: 'r' :: 'u' :: 'e' :: rest ∧ v = .boolean true) ∨
      (text = 'f' :: 'a' :: 'l' :: 's' :: 'e' :: rest ∧ v = .boolean false) ∨
      (∃ c behind, text = c :: behind ∧ beginsNumber c ∧
        numeric text = some (v, rest)) := by
  unfold scalarValue at found
  split at found
  · obtain ⟨⟨read, behind⟩, here, same⟩ := Option.map_eq_some_iff.mp found
    cases same
    exact .inl ⟨_, _, read, rfl, .inl rfl, here, rfl⟩
  · obtain ⟨⟨read, behind⟩, here, same⟩ := Option.map_eq_some_iff.mp found
    cases same
    exact .inl ⟨_, _, read, rfl, .inr rfl, here, rfl⟩
  · cases found
    exact .inr (.inl ⟨rfl, rfl⟩)
  · cases found
    exact .inr (.inr (.inl ⟨rfl, rfl⟩))
  · obtain _ | ⟨c, behind⟩ := text
    · cases found
    · exact .inr (.inr (.inr ⟨c, behind, rfl, beginsNumber_of_numeric found,
        found⟩))

theorem scalarValue_of_quote {quote : Char} (quotes : quote = '"' ∨ quote = '\'')
    (behind : List Char) :
    scalarValue (quote :: behind) =
      (string (quote :: behind)).map fun found => (.string found.1, found.2) := by
  rcases quotes with rfl | rfl <;> rfl

theorem stands_scalarValue : Stands Torn scalarValue where
  suffix {text v rest} found := by
    obtain ⟨_, _, read, _, _, here, _⟩ | ⟨rfl, _⟩ | ⟨rfl, _⟩ | ⟨_, _, _, _, here⟩ :=
      scalarValue_cases found
    · exact stands_string.suffix here
    · exact List.suffix_append ['t', 'r', 'u', 'e'] rest
    · exact List.suffix_append ['f', 'a', 'l', 's', 'e'] rest
    · exact steady_numeric.suffix here
  stays {text v rest} found more := by
    obtain ⟨quote, behind, read, rfl, quotes, here, rfl⟩ | ⟨rfl, rfl⟩ |
      ⟨rfl, rfl⟩ | ⟨c, behind, rfl, begins, here⟩ := scalarValue_cases found
    · rw [List.cons_append, scalarValue_of_quote quotes]
      obtain same | ⟨free, lines, torn⟩ := stands_string.stays here more
      · rw [List.cons_append] at same
        rw [same]
        exact .inl rfl
      · refine .inr ⟨free, lines, fun w behind' whole => ?_⟩
        obtain ⟨⟨later, behind⟩, there, same⟩ := Option.map_eq_some_iff.mp whole
        cases same
        exact .string here there (torn _ _ there)
    · exact .inl rfl
    · exact .inl rfl
    · rw [List.cons_append, scalarValue_of_beginsNumber begins]
      by_cases bounded : Bounded (c :: behind)
      · have same := steady_numeric.stays bounded more
        rw [here] at same
        exact .inl same
      · refine .inr ⟨fun inside => bounded (inside.of_suffix ?_),
          fun lines => bounded ?_, fun w behind' whole => .number here whole⟩
        · exact steady_numeric.suffix here
        · exact ⟨'\n', lines.subset (List.mem_singleton.mpr rfl), rfl⟩

theorem head_of_scalarValue {text : List Char} {found : Value × List Char}
    (value : scalarValue text = some found) :
    ∃ c behind, text = c :: behind ∧ c ≠ '#' ∧ c ≠ '\r' := by
  obtain ⟨quote, behind, _, rfl, rfl | rfl, _⟩ | ⟨rfl, _⟩ | ⟨rfl, _⟩ |
    ⟨c, behind, rfl, begins, _⟩ := scalarValue_cases value
  · exact ⟨_, _, rfl, by decide⟩
  · exact ⟨_, _, rfl, by decide⟩
  · exact ⟨_, _, rfl, by decide⟩
  · exact ⟨_, _, rfl, by decide⟩
  · refine ⟨c, behind, rfl, ?_, ?_⟩
    all_goals
      rintro rfl
      cases begins

end Tollgate.Toml
