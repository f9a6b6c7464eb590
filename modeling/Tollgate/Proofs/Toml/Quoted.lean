import Mathlib.Data.List.Infix
import Tollgate.Proofs.Toml.Steady

/-!
Blanks, line ends, strings and keys with more text behind them. What was read
of a text is read again when the text goes on, unless it was read up to the
very end: a bare key may go on then, and quotes may turn out to be three.
-/

namespace Tollgate.Toml

/-! Blanks and line ends -/

theorem skipBlanks_suffix (text : List Char) : skipBlanks text <:+ text :=
  List.dropWhile_suffix _

theorem skipBlanks_append {text : List Char} (stops : skipBlanks text ≠ [])
    (more : List Char) : skipBlanks (text ++ more) = skipBlanks text ++ more :=
  (dropWhile_append_of_ne_nil stops more).2

theorem skipBlanks_cons {c : Char} (solid : isBlank c = false)
    (rest : List Char) : skipBlanks (c :: rest) = c :: rest := by
  rw [skipBlanks, List.dropWhile_cons_of_neg (by simp [solid])]

theorem skipComment_suffix (text : List Char) : skipComment text <:+ text := by
  unfold skipComment
  split
  · exact (List.dropWhile_suffix _).trans (List.suffix_cons _ _)
  · exact List.suffix_rfl

theorem skipComment_cons {c : Char} (other : c ≠ '#') (rest : List Char) :
    skipComment (c :: rest) = c :: rest := by
  rw [skipComment]
  simp [other]

theorem skipComment_append {text : List Char} (stops : skipComment text ≠ [])
    (more : List Char) :
    skipComment (text ++ more) = skipComment text ++ more := by
  obtain _ | ⟨c, rest⟩ := text
  · exact absurd rfl stops
  · by_cases comment : c = '#'
    · subst comment
      exact (dropWhile_append_of_ne_nil stops more).2
    · rw [List.cons_append, skipComment_cons comment, skipComment_cons comment]
      rfl

theorem afterNewline?_suffix {text rest : List Char}
    (ends : afterNewline? text = some rest) :
    rest <:+ text ∧ rest.length < text.length := by
  unfold afterNewline? at ends
  split at ends
  · cases ends
    exact ⟨List.suffix_cons _ _, by simp⟩
  · cases ends
    refine ⟨(List.suffix_cons _ _).trans (List.suffix_cons _ _), ?_⟩
    simp only [List.length_cons]
    omega
  · cases ends

theorem bounded_of_afterNewline? {text rest : List Char}
    (ends : afterNewline? text = some rest) : Bounded text := by
  unfold afterNewline? at ends
  split at ends
  · exact ⟨'\n', by simp, rfl⟩
  · exact ⟨'\n', by simp, rfl⟩
  · cases ends

theorem afterNewline?_append {text rest : List Char}
    (ends : afterNewline? text = some rest) (more : List Char) :
    afterNewline? (text ++ more) = some (rest ++ more) := by
  unfold afterNewline? at ends
  split at ends
  · cases ends
    rfl
  · cases ends
    rfl
  · cases ends

theorem afterNewline?_cons {c : Char} (noFeed : c ≠ '\n') (noReturn : c ≠ '\r')
    (rest : List Char) : afterNewline? (c :: rest) = none := by
  unfold afterNewline?
  split
  · rename_i here
    exact absurd (List.cons.inj here).1 noFeed
  · rename_i here
    exact absurd (List.cons.inj here).1 noReturn
  · rfl

theorem afterNewline?_append_of_none {text : List Char}
    (other : afterNewline? text = none) (full : text ≠ [])
    (decided : text ≠ ['\r']) (more : List Char) :
    afterNewline? (text ++ more) = none := by
  obtain _ | ⟨c, rest⟩ := text
  · exact absurd rfl full
  · by_cases noReturn : c = '\r'
    · subst noReturn
      obtain _ | ⟨d, rest⟩ := rest
      · exact absurd rfl decided
      · have noFeed : d ≠ '\n' := by
          rintro rfl
          cases other
        rw [List.cons_append, List.cons_append, afterNewline?]
        · simp
        · simp [noFeed]
    · refine afterNewline?_cons ?_ noReturn _
      rintro rfl
      cases other

theorem afterLine?_cases {text rest : List Char}
    (ends : afterLine? text = some rest) :
    rest <:+ text ∧
      (rest = [] ∨
        Bounded text ∧ ∀ more, afterLine? (text ++ more) = some (rest ++ more)) := by
  unfold afterLine? at ends
  have inside := (skipComment_suffix (skipBlanks text)).trans
    (skipBlanks_suffix text)
  split at ends
  · cases ends
    exact ⟨List.nil_suffix, .inl rfl⟩
  · rename_i here stops
    have behind := afterNewline?_suffix ends
    refine ⟨behind.1.trans inside, .inr ⟨?_, fun more => ?_⟩⟩
    · exact (bounded_of_afterNewline? ends).of_suffix inside
    · have blanks : skipBlanks text ≠ [] := by
        intro empty
        rw [empty] at stops
        exact stops rfl
      rw [afterLine?, skipBlanks_append blanks, skipComment_append stops]
      split
      · simp_all
      · exact afterNewline?_append ends more

theorem skipLines_suffix (fuel : Nat) (text : List Char) :
    skipLines fuel text <:+ text := by
  induction fuel generalizing text with
  | zero => exact List.suffix_rfl
  | succ fuel ih =>
      rw [skipLines]
      split
      · rename_i rest ends
        exact (ih rest).trans ((afterNewline?_suffix ends).1.trans
          ((skipComment_suffix _).trans (skipBlanks_suffix text)))
      · exact skipBlanks_suffix text

theorem skipLines_append {fuel enough : Nat} {text rest : List Char} {c : Char}
    (long : text.length ≤ fuel) (longer : fuel ≤ enough)
    (here : skipLines fuel text = c :: rest) (noComment : c ≠ '#')
    (noReturn : c ≠ '\r') (more : List Char) :
    skipLines enough (text ++ more) = c :: (rest ++ more) := by
  induction fuel generalizing text enough with
  | zero =>
      rw [List.length_eq_zero_iff.mp (Nat.le_zero.mp long)] at here
      cases here
  | succ fuel ih =>
      obtain _ | enough := enough
      · exact absurd longer (Nat.not_succ_le_zero fuel)
      rw [skipLines] at here ⊢
      split at here
      · rename_i others ends
        have comment : skipComment (skipBlanks text) ≠ [] := by
          intro empty
          rw [empty] at ends
          cases ends
        have blanks : skipBlanks text ≠ [] := by
          intro empty
          rw [empty] at comment
          exact comment rfl
        rw [skipBlanks_append blanks, skipComment_append comment,
          afterNewline?_append ends]
        have shorter := (afterNewline?_suffix ends).2
        have within := ((skipComment_suffix (skipBlanks text)).trans
          (skipBlanks_suffix text)).length_le
        exact ih (by omega) (by omega) here
      · rename_i stops
        have blanks : skipBlanks text ≠ [] := by
          rw [here]
          exact List.cons_ne_nil c rest
        rw [here, skipComment_cons noComment] at stops
        have noFeed : c ≠ '\n' := by
          rintro rfl
          cases stops
        rw [skipBlanks_append blanks, here, List.cons_append,
          skipComment_cons noComment, afterNewline?_cons noFeed noReturn]

/-! Strings in single quotation marks of either kind -/

theorem consTo_eq_some {c : Char} {found : Option (List Char × List Char)}
    {read rest : List Char} :
    consTo c found = some (read, rest) ↔
      ∃ others, found = some (others, rest) ∧ read = c :: others := by
  obtain _ | ⟨others, behind⟩ := found
  · simp [consTo]
  · simp only [consTo, Option.some.injEq, Prod.mk.injEq]
    constructor
    · rintro ⟨rfl, rfl⟩
      exact ⟨others, ⟨rfl, rfl⟩, rfl⟩
    · rintro ⟨_, ⟨rfl, rfl⟩, rfl⟩
      exact ⟨rfl, rfl⟩

/-- A scanner that reads the same whatever follows. -/
structure Closed {α : Type} (s : Scan α) : Prop where
  suffix : ∀ {text a rest}, s text = some (a, rest) → rest <:+ text
  stays : ∀ {text a rest}, s text = some (a, rest) → ∀ more,
    s (text ++ more) = some (a, rest ++ more)

theorem closed_scalar (count : Nat) : Closed (scalar count) where
  suffix {text c rest} read := by
    unfold scalar at read
    dsimp only at read
    split at read
    · split at read
      · cases read
        exact List.drop_suffix _ _
      · cases read
    · cases read
  stays {text c rest} read more := by
    unfold scalar at read ⊢
    dsimp only at read ⊢
    split at read
    · rename_i digits
      have enough : count ≤ text.length := by
        simp only [Bool.and_eq_true, decide_eq_true_eq, List.length_take]
          at digits
        omega
      rw [List.take_append_of_le_length enough,
        List.drop_append_of_le_length enough, if_pos digits]
      split at read
      · rename_i valid
        cases read
        rw [if_pos valid]
      · cases read
    · cases read

theorem closed_escape : Closed escape where
  suffix {text c rest} read := by
    unfold escape at read
    split at read
    all_goals first
      | (cases read; exact List.suffix_cons _ _)
      | exact ((closed_scalar _).suffix read).trans (List.suffix_cons _ _)
      | cases read
  stays {text c rest} read more := by
    unfold escape at read
    split at read
    all_goals first
      | (cases read; rfl)
      | exact (closed_scalar _).stays read more
      | cases read

theorem basicRest_append {fuel enough : Nat} {text read rest : List Char}
    (longer : fuel ≤ enough) (found : basicRest fuel text = some (read, rest)) :
    rest <:+ text ∧
      ∀ more, basicRest enough (text ++ more) = some (read, rest ++ more) := by
  induction fuel generalizing text read enough with
  | zero => cases found
  | succ fuel ih =>
      obtain _ | enough := enough
      · exact absurd longer (Nat.not_succ_le_zero fuel)
      have longer := Nat.le_of_succ_le_succ longer
      unfold basicRest at found
      split at found
      · cases found
      · cases found
      · cases found
        exact ⟨List.suffix_cons _ _, fun more => rfl⟩
      · rename_i behind same
        cases same
        obtain ⟨⟨c, behind⟩, here, later⟩ := Option.bind_eq_some_iff.mp found
        obtain ⟨others, inner, rfl⟩ := consTo_eq_some.mp later
        obtain ⟨suffix, stays⟩ := ih longer inner
        refine ⟨suffix.trans ((closed_escape.suffix here).trans
          (List.suffix_cons _ _)), fun more => ?_⟩
        rw [List.cons_append, basicRest, closed_escape.stays here]
        simp only [Option.bind_some, stays, consTo]
      · rename_i c behind noQuote noEscape same
        cases same
        split at found
        · rename_i printable
          obtain ⟨others, inner, rfl⟩ := consTo_eq_some.mp found
          obtain ⟨suffix, stays⟩ := ih longer inner
          refine ⟨suffix.trans (List.suffix_cons _ _), fun more => ?_⟩
          rw [List.cons_append, basicRest, if_pos printable, stays]
          · rfl
          · exact noQuote
          · exact noEscape
        · cases found

theorem literalRest_append {text read rest : List Char}
    (found : literalRest text = some (read, rest)) :
    rest <:+ text ∧
      ∀ more, literalRest (text ++ more) = some (read, rest ++ more) := by
  induction text generalizing read with
  | nil => cases found
  | cons c behind ih =>
      rw [literalRest] at found
      split at found
      · rename_i quote
        cases found
        refine ⟨List.suffix_cons _ _, fun more => ?_⟩
        rw [List.cons_append, literalRest, if_pos quote]
      · rename_i noQuote
        split at found
        · rename_i printable
          obtain ⟨others, inner, rfl⟩ := consTo_eq_some.mp found
          obtain ⟨suffix, stays⟩ := ih inner
          refine ⟨suffix.trans (List.suffix_cons _ _), fun more => ?_⟩
          rw [List.cons_append, literalRest, if_neg noQuote, if_pos printable,
            stays]
          rfl
        · cases found

theorem asString_eq_some {found : Option (List Char × List Char)}
    {text : String} {rest : List Char} :
    asString found = some (text, rest) ↔
      ∃ read, found = some (read, rest) ∧ text = String.ofList read := by
  obtain _ | ⟨read, behind⟩ := found
  · simp [asString]
  · simp only [asString, Option.map_some, Option.some.injEq, Prod.mk.injEq]
    constructor
    · rintro ⟨rfl, rfl⟩
      exact ⟨read, ⟨rfl, rfl⟩, rfl⟩
    · rintro ⟨_, ⟨rfl, rfl⟩, rfl⟩
      exact ⟨rfl, rfl⟩

theorem closed_basicString :
    Closed fun text => asString (basicRest (text.length + 1) text) where
  suffix found := by
    obtain ⟨read, inner, rfl⟩ := asString_eq_some.mp found
    exact (basicRest_append (Nat.le_refl _) inner).1
  stays {text _ _} found more := by
    obtain ⟨read, inner, rfl⟩ := asString_eq_some.mp found
    have longer : text.length + 1 ≤ (text ++ more).length + 1 := by
      rw [List.length_append]
      omega
    exact asString_eq_some.mpr ⟨read, (basicRest_append longer inner).2 more, rfl⟩

theorem closed_literalString : Closed fun text => asString (literalRest text) where
  suffix found := by
    obtain ⟨read, inner, rfl⟩ := asString_eq_some.mp found
    exact (literalRest_append inner).1
  stays found more := by
    obtain ⟨read, inner, rfl⟩ := asString_eq_some.mp found
    exact asString_eq_some.mpr ⟨read, (literalRest_append inner).2 more, rfl⟩

/-! Keys -/

/-- A scanner that reads the same whatever follows, unless it reads up to the
end of the text. -/
structure Halted {α : Type} (s : Scan α) : Prop where
  suffix : ∀ {text a rest}, s text = some (a, rest) → rest <:+ text
  stays : ∀ {text a rest}, s text = some (a, rest) → rest ≠ [] → ∀ more,
    s (text ++ more) = some (a, rest ++ more)

theorem keyPart_cases {text rest : List Char} {name : String}
    (found : keyPart text = some (name, rest)) :
    (∃ behind, text = '"' :: behind ∧
        asString (basicRest (behind.length + 1) behind) = some (name, rest)) ∨
      (∃ behind, text = '\'' :: behind ∧
        asString (literalRest behind) = some (name, rest)) ∨
      (text.head?.any isBareKeyChar ∧
        name = String.ofList (text.takeWhile isBareKeyChar) ∧
        rest = text.dropWhile isBareKeyChar) := by
  unfold keyPart at found
  split at found
  · exact .inl ⟨_, rfl, found⟩
  · exact .inr (.inl ⟨_, rfl, found⟩)
  · refine .inr (.inr ?_)
    split at found
    · cases found
    · cases found
      refine ⟨?_, rfl, rfl⟩
      obtain _ | ⟨c, behind⟩ := text
      · contradiction
      · by_contra other
        simp_all

theorem keyPart_bare {text : List Char} (bare : text.head?.any isBareKeyChar) :
    keyPart text = some (String.ofList (text.takeWhile isBareKeyChar),
      text.dropWhile isBareKeyChar) := by
  obtain _ | ⟨c, rest⟩ := text
  · cases bare
  · have letter : isBareKeyChar c := bare
    rw [keyPart]
    · rw [List.takeWhile_cons_of_pos letter]
    · rintro _ ⟨⟩
      cases letter
    · rintro _ ⟨⟩
      cases letter

theorem halted_keyPart : Halted keyPart where
  suffix found := by
    obtain ⟨behind, rfl, found⟩ | ⟨behind, rfl, found⟩ | ⟨_, _, rfl⟩ :=
      keyPart_cases found
    · exact (closed_basicString.suffix found).trans (List.suffix_cons _ _)
    · exact (closed_literalString.suffix found).trans (List.suffix_cons _ _)
    · exact List.dropWhile_suffix _
  stays found stops more := by
    obtain ⟨behind, rfl, found⟩ | ⟨behind, rfl, found⟩ | ⟨bare, rfl, rfl⟩ :=
      keyPart_cases found
    · exact closed_basicString.stays found more
    · exact closed_literalString.stays found more
    · obtain ⟨taken, dropped⟩ := dropWhile_append_of_ne_nil stops more
      rw [keyPart_bare, taken, dropped]
      rw [List.head?_append_of_ne_nil]
      · exact bare
      · rintro rfl
        exact stops rfl

theorem halted_keyParts (parts : Nat) : Halted (keyParts parts) := by
  induction parts with
  | zero => exact ⟨nofun, nofun⟩
  | succ parts ih =>
      refine ⟨fun {text names rest} found => ?_,
        fun {text names rest} found stops more => ?_⟩
      · rw [keyParts] at found
        obtain ⟨⟨name, behind⟩, part, later⟩ := Option.bind_eq_some_iff.mp found
        have here := ((skipBlanks_suffix behind).trans
          (halted_keyPart.suffix part)).trans (skipBlanks_suffix text)
        dsimp only at later
        split at later
        · rename_i behind dot
          obtain ⟨⟨others, behind⟩, inner, same⟩ := Option.map_eq_some_iff.mp later
          cases same
          rw [dot] at here
          exact (ih.suffix inner).trans ((List.suffix_cons _ _).trans here)
        · cases later
          exact here
      · rw [keyParts] at found ⊢
        obtain ⟨⟨name, behind⟩, part, later⟩ := Option.bind_eq_some_iff.mp found
        have blanks : skipBlanks text ≠ [] := by
          intro empty
          rw [empty] at part
          cases part
        -- More of the text stands behind this part, a dot or the rest.
        have dotOrRest : skipBlanks behind ≠ [] := by
          intro empty
          simp only [empty] at later
          cases later
          exact stops rfl
        have behindStops : behind ≠ [] := by
          rintro rfl
          exact dotOrRest rfl
        rw [skipBlanks_append blanks,
          halted_keyPart.stays part behindStops, Option.bind_some]
        dsimp only at later ⊢
        rw [skipBlanks_append dotOrRest]
        split at later
        · rename_i behind dot
          obtain ⟨⟨others, behind⟩, inner, same⟩ :=
            Option.map_eq_some_iff.mp later
          cases same
          rw [dot, List.cons_append]
          simp only [ih.stays inner stops, Option.map_some]
        · rename_i noDot
          cases later
          rcases here : skipBlanks behind with _ | ⟨c, others⟩
          · exact absurd here dotOrRest
          · rw [List.cons_append]
            split
            · rename_i dot
              cases (List.cons.inj dot).1
              exact absurd here (noDot others)
            · rfl

theorem halted_key : Halted key where
  suffix {text name rest} found := by
    obtain ⟨⟨names, behind⟩, parts, last⟩ := Option.bind_eq_some_iff.mp found
    obtain ⟨last, _, same⟩ := Option.map_eq_some_iff.mp last
    cases same
    exact (halted_keyParts _).suffix parts
  stays {text name rest} found stops more := by
    obtain ⟨⟨names, behind⟩, parts, last⟩ := Option.bind_eq_some_iff.mp found
    obtain ⟨last, here, same⟩ := Option.map_eq_some_iff.mp last
    cases same
    rw [key, (halted_keyParts _).stays parts stops more]
    simp only [Option.bind_some, here, Option.map_some]

theorem head_of_key {text rest : List Char} {name : List String × String}
    (found : key text = some (name, rest)) :
    ∃ c behind, skipBlanks text = c :: behind ∧
      c ≠ '#' ∧ c ≠ '\n' ∧ c ≠ '\r' := by
  obtain ⟨⟨names, behind⟩, parts, _⟩ := Option.bind_eq_some_iff.mp found
  obtain ⟨⟨name, behind⟩, part, _⟩ := Option.bind_eq_some_iff.mp parts
  obtain ⟨behind, here, _⟩ | ⟨behind, here, _⟩ | ⟨bare, _⟩ := keyPart_cases part
  · exact ⟨_, behind, here, by decide⟩
  · exact ⟨_, behind, here, by decide⟩
  · rcases here : skipBlanks text with _ | ⟨c, behind⟩
    · rw [here] at bare
      cases bare
    · rw [here] at bare
      refine ⟨c, behind, rfl, ?_, ?_, ?_⟩
      all_goals
        rintro rfl
        cases bare

end Tollgate.Toml
