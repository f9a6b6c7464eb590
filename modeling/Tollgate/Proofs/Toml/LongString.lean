import Tollgate.Proofs.Toml.Quoted

/-!
Strings in triple quotes with more text behind them. Up to five quotes end a
string, and two of them belong to it; so when a text ends with the quotes, one
or two may be missing.
-/

namespace Tollgate.Toml

/-- What a string is read as when the text goes on: the same, or with one or two
quotes more, if the quotes that end it end the text. -/
inductive Prolonged (quote : Char) (text read rest more : List Char) :
    Option (List Char × List Char) → Prop where
  | same : Prolonged quote text read rest more (some (read, rest ++ more))
  | quotes (count : Nat) (behind : List Char) (atEnd : rest = [])
      (closed : [quote] <:+ text) (positive : 0 < count) (few : count ≤ 2) :
      Prolonged quote text read rest more
        (some (read ++ List.replicate count quote, behind))

theorem Prolonged.consTo {quote c : Char} {text whole read rest more : List Char}
    {found : Option (List Char × List Char)}
    (prolonged : Prolonged quote text read rest more found)
    (inside : text <:+ whole) :
    Prolonged quote whole (c :: read) rest more (consTo c found) := by
  cases prolonged with
  | same => exact .same
  | quotes count behind atEnd closed positive few =>
      exact .quotes count behind atEnd (closed.trans inside) positive few

theorem Prolonged.of_suffix {quote : Char} {text whole read rest more : List Char}
    {found : Option (List Char × List Char)}
    (prolonged : Prolonged quote text read rest more found)
    (inside : text <:+ whole) : Prolonged quote whole read rest more found := by
  cases prolonged with
  | same => exact .same
  | quotes count behind atEnd closed positive few =>
      exact .quotes count behind atEnd (closed.trans inside) positive few

theorem Prolonged.exists_some {quote : Char} {text read rest more : List Char}
    {found : Option (List Char × List Char)}
    (prolonged : Prolonged quote text read rest more found) :
    ∃ p, found = some p ∧ Prolonged quote text read rest more (some p) := by
  cases prolonged with
  | same => exact ⟨_, rfl, .same⟩
  | quotes count behind atEnd closed positive few =>
      exact ⟨_, rfl, .quotes count behind atEnd closed positive few⟩

theorem eq_replicate_of_dropWhile {quote : Char} {text : List Char}
    (all : text.dropWhile (· == quote) = []) :
    text = List.replicate text.length quote := by
  rw [List.eq_replicate_iff]
  refine ⟨rfl, fun c inside => ?_⟩
  rw [List.dropWhile_eq_nil_iff] at all
  exact eq_of_beq (all c inside)

/-- How many of the quotes that end a string belong to it. -/
def extraQuotes (quotes : Nat) : Nat :=
  if quotes ≤ 5 then quotes - 3 else 2

theorem extraQuotes_le {quotes : Nat} (three : 3 ≤ quotes) :
    extraQuotes quotes + 3 ≤ quotes := by
  unfold extraQuotes
  split <;> omega

/-- With more quotes more of them belong to the string only if all quotes so far
were needed to end it. -/
theorem extraQuotes_add {quotes : Nat} (three : 3 ≤ quotes) (more : Nat) :
    extraQuotes (quotes + more) = extraQuotes quotes ∨
      (extraQuotes quotes < extraQuotes (quotes + more) ∧
        extraQuotes (quotes + more) ≤ 2 ∧ quotes ≤ extraQuotes quotes + 3) := by
  unfold extraQuotes
  split <;> split <;> omega

theorem closing_of_three {quote : Char} {text : List Char} {quotes : Nat}
    (here : (text.takeWhile (· == quote)).length = quotes) (three : 3 ≤ quotes) :
    closing quote text =
      some (List.replicate (extraQuotes quotes) quote,
        text.drop (extraQuotes quotes + 3)) := by
  subst here
  exact if_neg (Nat.not_lt.mpr three)

theorem closing_eq_none {quote : Char} {text : List Char} :
    closing quote text = none ↔ (text.takeWhile (· == quote)).length < 3 := by
  refine ⟨fun other => ?_, fun few => if_pos few⟩
  by_contra three
  rw [closing_of_three rfl (Nat.not_lt.mp three)] at other
  cases other

theorem closing_prolonged {quote : Char} {text read rest : List Char}
    (found : closing quote text = some (read, rest)) :
    rest <:+ text ∧
      ∀ more, Prolonged quote text read rest more (closing quote (text ++ more)) := by
  have within := (List.takeWhile_prefix (· == quote) (l := text)).length_le
  by_cases three : 3 ≤ (text.takeWhile (· == quote)).length
  · rw [closing_of_three rfl three] at found
    cases found
    refine ⟨List.drop_suffix _ _, fun more => ?_⟩
    by_cases all : text.dropWhile (· == quote) = []
    · have whole : text.takeWhile (· == quote) = text :=
        List.takeWhile_eq_self_iff.mpr (List.dropWhile_eq_nil_iff.mp all)
      have longer : ((text ++ more).takeWhile (· == quote)).length =
          text.length + (more.takeWhile (· == quote)).length := by
        rw [List.takeWhile_append, if_pos (congrArg List.length whole),
          List.length_append]
      rw [whole] at three ⊢
      rw [closing_of_three longer (by omega)]
      obtain same | ⟨grown, few, used⟩ :=
        extraQuotes_add three (more.takeWhile (· == quote)).length
      · rw [same, List.drop_append_of_le_length (extraQuotes_le three)]
        exact .same
      · rw [← Nat.add_sub_cancel' (Nat.le_of_lt grown),
          ← List.replicate_append_replicate]
        refine .quotes _ _ (List.drop_eq_nil_of_le used) ?_ (by omega) (by omega)
        rw [eq_replicate_of_dropWhile all,
          ← Nat.sub_add_cancel (Nat.le_trans (by decide : 1 ≤ 3) three),
          ← List.replicate_append_replicate]
        exact List.suffix_append _ _
    · have taken := (dropWhile_append_of_ne_nil all more).1
      rw [closing_of_three (congrArg List.length taken) three,
        List.drop_append_of_le_length]
      · exact .same
      · exact Nat.le_trans (extraQuotes_le three) within
  · rw [closing_eq_none.mpr (Nat.not_le.mp three)] at found
    cases found

theorem closing_append_of_none {quote : Char} {text : List Char}
    (other : closing quote text = none)
    (stops : text.dropWhile (· == quote) ≠ []) (more : List Char) :
    closing quote (text ++ more) = none := by
  rw [closing_eq_none] at other ⊢
  rwa [(dropWhile_append_of_ne_nil stops more).1]

/-! Lines that are continued -/

theorem skipAll_suffix (fuel : Nat) (text : List Char) :
    afterContinuation?.skipAll fuel text <:+ text := by
  induction fuel generalizing text with
  | zero => exact List.suffix_rfl
  | succ fuel ih =>
      rw [afterContinuation?.skipAll]
      split
      · rename_i rest ends
        exact (ih rest).trans ((afterNewline?_suffix ends).1.trans
          (skipBlanks_suffix text))
      · exact skipBlanks_suffix text

theorem skipAll_append {fuel enough : Nat} {text rest : List Char}
    (long : text.length ≤ fuel) (longer : fuel ≤ enough)
    (here : afterContinuation?.skipAll fuel text = rest) (full : rest ≠ [])
    (decided : rest ≠ ['\r']) (more : List Char) :
    afterContinuation?.skipAll enough (text ++ more) = rest ++ more := by
  induction fuel generalizing text enough with
  | zero =>
      rw [List.length_eq_zero_iff.mp (Nat.le_zero.mp long)] at here
      exact absurd here.symm full
  | succ fuel ih =>
      obtain _ | enough := enough
      · exact absurd longer (Nat.not_succ_le_zero fuel)
      rw [afterContinuation?.skipAll] at here ⊢
      split at here
      · rename_i others ends
        have blanks : skipBlanks text ≠ [] := by
          intro empty
          rw [empty] at ends
          cases ends
        rw [skipBlanks_append blanks, afterNewline?_append ends]
        have shorter := (afterNewline?_suffix ends).2
        have within := (skipBlanks_suffix text).length_le
        exact ih (by omega) (by omega) here
      · rename_i stops
        rw [here] at stops
        rw [skipBlanks_append (here ▸ full), here,
          afterNewline?_append_of_none stops full decided]

theorem afterContinuation?_suffix {text rest : List Char}
    (continues : afterContinuation? text = some rest) : rest <:+ text := by
  obtain ⟨behind, ends, rfl⟩ := Option.map_eq_some_iff.mp continues
  exact (skipAll_suffix _ _).trans ((afterNewline?_suffix ends).1.trans
    (skipBlanks_suffix text))

theorem afterContinuation?_append {text rest : List Char}
    (continues : afterContinuation? text = some rest) (full : rest ≠ [])
    (decided : rest ≠ ['\r']) (more : List Char) :
    afterContinuation? (text ++ more) = some (rest ++ more) := by
  obtain ⟨behind, ends, here⟩ := Option.map_eq_some_iff.mp continues
  have blanks : skipBlanks text ≠ [] := by
    intro empty
    rw [empty] at ends
    cases ends
  rw [afterContinuation?, skipBlanks_append blanks, afterNewline?_append ends,
    Option.map_some, Option.some_inj]
  refine skipAll_append (Nat.le_refl _) ?_ here full decided more
  rw [List.length_append]
  omega

theorem afterContinuation?_of_escape {text rest : List Char} {c : Char}
    (escapes : escape text = some (c, rest)) :
    afterContinuation? text = none := by
  have solid : ∃ d others, text = d :: others ∧
      isBlank d = false ∧ d ≠ '\n' ∧ d ≠ '\r' := by
    unfold escape at escapes
    split at escapes
    all_goals first
      | cases escapes; done
      | exact ⟨_, _, rfl, by decide⟩
  obtain ⟨d, others, rfl, noBlank, noFeed, noReturn⟩ := solid
  rw [afterContinuation?, skipBlanks_cons noBlank,
    afterNewline?_cons noFeed noReturn, Option.map_none]

/-! The two kinds of long strings -/

/-- A string does not end with fewer than three quotes: each of them would be
read as a character of the string, until none is left. -/
theorem stops_of_scan {quote : Char} {scan : Nat → Scan (List Char)}
    (zero : ∀ text, scan 0 text = none) (nil : ∀ fuel, scan fuel [] = none)
    (next : ∀ {fuel : Nat} {behind read rest : List Char},
      closing quote (quote :: behind) = none →
      scan (fuel + 1) (quote :: behind) = some (read, rest) →
      ∃ others, scan fuel behind = some (others, rest))
    {fuel : Nat} {text read rest : List Char}
    (found : scan fuel text = some (read, rest))
    (other : closing quote text = none) : text.dropWhile (· == quote) ≠ [] := by
  intro all
  induction fuel generalizing text read with
  | zero =>
      rw [zero] at found
      cases found
  | succ fuel ih =>
      obtain _ | ⟨c, behind⟩ := text
      · rw [nil] at found
        cases found
      · rw [List.dropWhile_eq_nil_iff, List.forall_mem_cons] at all
        obtain ⟨here, all⟩ := all
        obtain rfl : quote = c := (eq_of_beq here).symm
        obtain ⟨others, inner⟩ := next other found
        have few := closing_eq_none.mp other
        rw [List.takeWhile_cons, if_pos here] at few
        exact ih inner (closing_eq_none.mpr (Nat.lt_of_succ_lt few))
          (List.dropWhile_eq_nil_iff.mpr all)

theorem longBasicRest_nil (fuel : Nat) : longBasicRest fuel [] = none := by
  cases fuel <;> rfl

theorem longBasicRest_return (fuel : Nat) :
    longBasicRest fuel ['\r'] = none := by
  cases fuel <;> rfl

theorem ne_newline_of_isPrintable {c : Char} (printable : isPrintable c) :
    c ≠ '\n' ∧ c ≠ '\r' := by
  constructor
  all_goals
    rintro rfl
    cases printable

theorem longBasicRest_eq_some {fuel : Nat} {text read rest : List Char} :
    longBasicRest (fuel + 1) text = some (read, rest) ↔
      closing '"' text = some (read, rest) ∨ closing '"' text = none ∧
        ((∃ behind others, afterNewline? text = some behind ∧
            longBasicRest fuel behind = some (others, rest) ∧
            read = '\n' :: others) ∨
          (∃ behind next, text = '\\' :: behind ∧
            afterContinuation? behind = some next ∧
            longBasicRest fuel next = some (read, rest)) ∨
          (∃ behind c next others, text = '\\' :: behind ∧
            escape behind = some (c, next) ∧
            longBasicRest fuel next = some (others, rest) ∧ read = c :: others) ∨
          ∃ c behind others, text = c :: behind ∧ isPrintable c ∧ c ≠ '\\' ∧
            longBasicRest fuel behind = some (others, rest) ∧
            read = c :: others) := by
  have noNewline (behind : List Char) : afterNewline? ('\\' :: behind) = none := rfl
  constructor
  · intro found
    unfold longBasicRest at found
    split at found
    · rename_i here
      cases found
      exact .inl here
    rename_i noClosing
    refine .inr ⟨noClosing, ?_⟩
    split at found
    · rename_i behind ends
      obtain ⟨others, inner, rfl⟩ := consTo_eq_some.mp found
      exact .inl ⟨behind, others, ends, inner, rfl⟩
    split at found
    · cases found
    · rename_i behind _
      split at found
      · rename_i next continues
        exact .inr (.inl ⟨behind, next, rfl, continues, found⟩)
      · obtain ⟨⟨c, next⟩, escapes, later⟩ := Option.bind_eq_some_iff.mp found
        obtain ⟨others, inner, rfl⟩ := consTo_eq_some.mp later
        exact .inr (.inr (.inl ⟨behind, c, next, others, rfl, escapes, inner,
          rfl⟩))
    · rename_i c behind plain _
      split at found
      · rename_i printable
        obtain ⟨others, inner, rfl⟩ := consTo_eq_some.mp found
        exact .inr (.inr (.inr ⟨c, behind, others, rfl, printable, plain, inner,
          rfl⟩))
      · cases found
  · rintro (closes | ⟨noClosing, ⟨behind, others, ends, inner, rfl⟩ |
      ⟨behind, next, rfl, continues, inner⟩ |
      ⟨behind, c, next, others, rfl, escapes, inner, rfl⟩ |
      ⟨c, behind, others, rfl, printable, plain, inner, rfl⟩⟩)
    · simp only [longBasicRest, closes]
    · simp only [longBasicRest, noClosing, ends]
      exact consTo_eq_some.mpr ⟨others, inner, rfl⟩
    · simp only [longBasicRest, noClosing, noNewline, continues, inner]
    · simp only [longBasicRest, noClosing, noNewline,
        afterContinuation?_of_escape escapes, escapes, Option.bind_some]
      exact consTo_eq_some.mpr ⟨others, inner, rfl⟩
    · obtain ⟨noFeed, noReturn⟩ := ne_newline_of_isPrintable printable
      rw [longBasicRest]
      · simp only [noClosing, afterNewline?_cons noFeed noReturn, if_pos printable]
        exact consTo_eq_some.mpr ⟨others, inner, rfl⟩
      · exact plain

theorem stops_of_longBasicRest {fuel : Nat} {text read rest : List Char}
    (found : longBasicRest fuel text = some (read, rest))
    (other : closing '"' text = none) : text.dropWhile (· == '"') ≠ [] := by
  refine stops_of_scan (fun _ => rfl) longBasicRest_nil ?_ found other
  intro fuel behind read rest other found
  obtain closes | ⟨-, ⟨_, _, ends, -, -⟩ | ⟨_, _, slash, -, -⟩ |
    ⟨_, _, _, _, slash, -, -, -⟩ | ⟨_, _, others, same, -, -, inner, -⟩⟩ :=
    longBasicRest_eq_some.mp found
  · rw [other] at closes
    cases closes
  · cases ends
  · cases slash
  · cases slash
  · cases same
    exact ⟨others, inner⟩

theorem longBasicRest_prolonged {fuel enough : Nat} {text read rest : List Char}
    (longer : fuel ≤ enough)
    (found : longBasicRest fuel text = some (read, rest)) :
    rest <:+ text ∧
      ∀ more, Prolonged '"' text read rest more
        (longBasicRest enough (text ++ more)) := by
  induction fuel generalizing text read enough with
  | zero => cases found
  | succ fuel ih =>
      obtain _ | enough := enough
      · exact absurd longer (Nat.not_succ_le_zero fuel)
      have longer := Nat.le_of_succ_le_succ longer
      obtain closes | ⟨noClosing, later⟩ := longBasicRest_eq_some.mp found
      · obtain ⟨suffix, prolonged⟩ := closing_prolonged closes
        refine ⟨suffix, fun more => ?_⟩
        obtain ⟨found', closes', prolonged⟩ := (prolonged more).exists_some
        rwa [longBasicRest_eq_some.mpr (.inl closes')]
      have noClosing :=
        closing_append_of_none noClosing (stops_of_longBasicRest found noClosing)
      obtain ⟨behind, others, ends, inner, rfl⟩ |
        ⟨behind, next, rfl, continues, inner⟩ |
        ⟨behind, c, next, others, rfl, escapes, inner, rfl⟩ |
        ⟨c, behind, others, rfl, printable, plain, inner, rfl⟩ := later
      all_goals obtain ⟨suffix, prolonged⟩ := ih longer inner
      · have inside := (afterNewline?_suffix ends).1
        refine ⟨suffix.trans inside, fun more => ?_⟩
        obtain ⟨found', inner', prolonged⟩ := (prolonged more).exists_some
        rw [longBasicRest_eq_some.mpr (.inr ⟨noClosing more, .inl ⟨_, _,
          afterNewline?_append ends more, inner', rfl⟩⟩)]
        exact prolonged.consTo inside
      · have inside := (afterContinuation?_suffix continues).trans
          (List.suffix_cons '\\' behind)
        have full : next ≠ [] := by
          rintro rfl
          rw [longBasicRest_nil] at inner
          cases inner
        have decided : next ≠ ['\r'] := by
          rintro rfl
          rw [longBasicRest_return] at inner
          cases inner
        refine ⟨suffix.trans inside, fun more => ?_⟩
        obtain ⟨found', inner', prolonged⟩ := (prolonged more).exists_some
        rw [longBasicRest_eq_some.mpr (.inr ⟨noClosing more, .inr (.inl ⟨_, _, rfl,
          afterContinuation?_append continues full decided more, inner'⟩)⟩)]
        exact prolonged.of_suffix inside
      · have inside := (closed_escape.suffix escapes).trans
          (List.suffix_cons '\\' behind)
        refine ⟨suffix.trans inside, fun more => ?_⟩
        obtain ⟨found', inner', prolonged⟩ := (prolonged more).exists_some
        rw [longBasicRest_eq_some.mpr (.inr ⟨noClosing more, .inr (.inr (.inl ⟨_, c,
          _, _, rfl, closed_escape.stays escapes more, inner', rfl⟩))⟩)]
        exact prolonged.consTo inside
      · have inside := List.suffix_cons c behind
        refine ⟨suffix.trans inside, fun more => ?_⟩
        obtain ⟨found', inner', prolonged⟩ := (prolonged more).exists_some
        rw [longBasicRest_eq_some.mpr (.inr ⟨noClosing more, .inr (.inr (.inr ⟨c, _,
          _, rfl, printable, plain, inner', rfl⟩))⟩)]
        exact prolonged.consTo inside

theorem longLiteralRest_nil (fuel : Nat) : longLiteralRest fuel [] = none := by
  cases fuel <;> rfl

theorem longLiteralRest_return (fuel : Nat) :
    longLiteralRest fuel ['\r'] = none := by
  cases fuel <;> rfl

theorem longLiteralRest_eq_some {fuel : Nat} {text read rest : List Char} :
    longLiteralRest (fuel + 1) text = some (read, rest) ↔
      closing '\'' text = some (read, rest) ∨ closing '\'' text = none ∧
        ((∃ behind others, afterNewline? text = some behind ∧
            longLiteralRest fuel behind = some (others, rest) ∧
            read = '\n' :: others) ∨
          ∃ c behind others, text = c :: behind ∧ isPrintable c ∧
            longLiteralRest fuel behind = some (others, rest) ∧
            read = c :: others) := by
  constructor
  · intro found
    unfold longLiteralRest at found
    split at found
    · rename_i here
      cases found
      exact .inl here
    rename_i noClosing
    refine .inr ⟨noClosing, ?_⟩
    split at found
    · rename_i behind ends
      obtain ⟨others, inner, rfl⟩ := consTo_eq_some.mp found
      exact .inl ⟨behind, others, ends, inner, rfl⟩
    split at found
    · cases found
    · rename_i c behind _
      split at found
      · rename_i printable
        obtain ⟨others, inner, rfl⟩ := consTo_eq_some.mp found
        exact .inr ⟨c, behind, others, rfl, printable, inner, rfl⟩
      · cases found
  · rintro (closes | ⟨noClosing, ⟨behind, others, ends, inner, rfl⟩ |
      ⟨c, behind, others, rfl, printable, inner, rfl⟩⟩)
    · simp only [longLiteralRest, closes]
    · simp only [longLiteralRest, noClosing, ends]
      exact consTo_eq_some.mpr ⟨others, inner, rfl⟩
    · obtain ⟨noFeed, noReturn⟩ := ne_newline_of_isPrintable printable
      simp only [longLiteralRest, noClosing, afterNewline?_cons noFeed noReturn,
        if_pos printable]
      exact consTo_eq_some.mpr ⟨others, inner, rfl⟩

theorem stops_of_longLiteralRest {fuel : Nat} {text read rest : List Char}
    (found : longLiteralRest fuel text = some (read, rest))
    (other : closing '\'' text = none) : text.dropWhile (· == '\'') ≠ [] := by
  refine stops_of_scan (fun _ => rfl) longLiteralRest_nil ?_ found other
  intro fuel behind read rest other found
  obtain closes | ⟨-, ⟨_, _, ends, -, -⟩ | ⟨_, _, others, same, -, inner, -⟩⟩ :=
    longLiteralRest_eq_some.mp found
  · rw [other] at closes
    cases closes
  · cases ends
  · cases same
    exact ⟨others, inner⟩

theorem longLiteralRest_prolonged {fuel enough : Nat}
    {text read rest : List Char} (longer : fuel ≤ enough)
    (found : longLiteralRest fuel text = some (read, rest)) :
    rest <:+ text ∧
      ∀ more, Prolonged '\'' text read rest more
        (longLiteralRest enough (text ++ more)) := by
  induction fuel generalizing text read enough with
  | zero => cases found
  | succ fuel ih =>
      obtain _ | enough := enough
      · exact absurd longer (Nat.not_succ_le_zero fuel)
      have longer := Nat.le_of_succ_le_succ longer
      obtain closes | ⟨noClosing, later⟩ := longLiteralRest_eq_some.mp found
      · obtain ⟨suffix, prolonged⟩ := closing_prolonged closes
        refine ⟨suffix, fun more => ?_⟩
        obtain ⟨found', closes', prolonged⟩ := (prolonged more).exists_some
        rwa [longLiteralRest_eq_some.mpr (.inl closes')]
      have noClosing :=
        closing_append_of_none noClosing (stops_of_longLiteralRest found noClosing)
      obtain ⟨behind, others, ends, inner, rfl⟩ |
        ⟨c, behind, others, rfl, printable, inner, rfl⟩ := later
      all_goals obtain ⟨suffix, prolonged⟩ := ih longer inner
      · have inside := (afterNewline?_suffix ends).1
        refine ⟨suffix.trans inside, fun more => ?_⟩
        obtain ⟨found', inner', prolonged⟩ := (prolonged more).exists_some
        rw [longLiteralRest_eq_some.mpr (.inr ⟨noClosing more, .inl ⟨_, _,
          afterNewline?_append ends more, inner', rfl⟩⟩)]
        exact prolonged.consTo inside
      · have inside := List.suffix_cons c behind
        refine ⟨suffix.trans inside, fun more => ?_⟩
        obtain ⟨found', inner', prolonged⟩ := (prolonged more).exists_some
        rw [longLiteralRest_eq_some.mpr (.inr ⟨noClosing more, .inr ⟨c, _, _, rfl,
          printable, inner', rfl⟩⟩)]
        exact prolonged.consTo inside

end Tollgate.Toml
