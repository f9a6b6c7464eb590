import Tollgate.Proofs.Toml.Torn

/-!
Values in brackets and braces, and lines of a table, with more text behind
them. Within brackets every item stands before a delimiter, so nothing is torn.
-/

namespace Tollgate.Toml

variable {item : Scan Value}

/-- What is scanned begins with neither a comment nor a line end. -/
def BeginsSolid {α : Type} (s : Scan α) : Prop :=
  ∀ {text found}, s text = some found →
    ∃ c behind, text = c :: behind ∧ c ≠ '#' ∧ c ≠ '\r'

theorem bounded_of_skipLines {c : Char} {fuel : Nat} {text rest : List Char}
    (here : skipLines fuel text = c :: rest) (delimits : isDelimiter c) :
    Bounded text :=
  Bounded.of_suffix (bounded_cons.mpr (.inl delimits))
    (here ▸ skipLines_suffix fuel text)

def afterItem (item : Scan Value) (fuel : Nat) (value : Value)
    (text : List Char) : Option (List Value × List Char) :=
  match skipLines text.length text with
  | ',' :: rest =>
      (arrayItems item fuel rest).map fun (values, rest) => (value :: values, rest)
  | ']' :: rest => some ([value], rest)
  | _ => none

theorem arrayItems_end {fuel : Nat} {text rest : List Char}
    (here : skipLines text.length text = ']' :: rest) :
    arrayItems item (fuel + 1) text = some ([], rest) := by
  rw [arrayItems, here]
  rfl

theorem arrayItems_item {fuel : Nat} {text begun : List Char}
    (here : skipLines text.length text = begun)
    (noEnd : ∀ rest, begun ≠ ']' :: rest) :
    arrayItems item (fuel + 1) text =
      (item begun).bind fun (value, text) => afterItem item fuel value text := by
  rw [arrayItems, here]
  split
  · exact absurd rfl (noEnd _)
  · rcases item begun with _ | ⟨value, behind⟩
    · rfl
    · simp only [Option.bind_eq_bind, Option.bind_some, afterItem,
        Option.map_eq_bind]
      rfl

theorem afterItem_comma {fuel : Nat} {value : Value} {text rest : List Char}
    (here : skipLines text.length text = ',' :: rest) :
    afterItem item fuel value text =
      (arrayItems item fuel rest).map fun found => (value :: found.1, found.2) := by
  rw [afterItem, here]
  rfl

theorem afterItem_end {fuel : Nat} {value : Value} {text rest : List Char}
    (here : skipLines text.length text = ']' :: rest) :
    afterItem item fuel value text = some ([value], rest) := by
  rw [afterItem, here]
  rfl

theorem afterItem_cases {fuel : Nat} {value : Value} {text rest : List Char}
    {values : List Value}
    (found : afterItem item fuel value text = some (values, rest)) :
    (∃ behind others, skipLines text.length text = ',' :: behind ∧
        arrayItems item fuel behind = some (others, rest) ∧
        values = value :: others) ∨
      (skipLines text.length text = ']' :: rest ∧ values = [value]) := by
  unfold afterItem at found
  split at found
  · rename_i behind here
    obtain ⟨⟨others, tail⟩, inner, same⟩ := Option.map_eq_some_iff.mp found
    cases same
    exact .inl ⟨behind, others, here, inner, rfl⟩
  · rename_i here
    cases found
    exact .inr ⟨here, rfl⟩
  · cases found

theorem skipLines_length_append {c : Char} {text rest : List Char}
    (here : skipLines text.length text = c :: rest) (noComment : c ≠ '#')
    (noReturn : c ≠ '\r') (more : List Char) :
    skipLines (text ++ more).length (text ++ more) = c :: (rest ++ more) := by
  refine skipLines_append (Nat.le_refl _) ?_ here noComment noReturn more
  rw [List.length_append]
  exact Nat.le_add_right _ _

theorem arrayItems_append (stands : Stands Torn item) (solid : BeginsSolid item)
    {fuel enough : Nat} {text rest : List Char} {values : List Value}
    (longer : fuel ≤ enough)
    (found : arrayItems item fuel text = some (values, rest)) :
    rest <:+ text ∧ ∀ more,
      arrayItems item enough (text ++ more) = some (values, rest ++ more) := by
  induction fuel generalizing text values enough with
  | zero => cases found
  | succ fuel ih =>
      obtain _ | enough := enough
      · exact absurd longer (Nat.not_succ_le_zero fuel)
      have longer := Nat.le_of_succ_le_succ longer
      have suffix := skipLines_suffix text.length text
      rcases here : skipLines text.length text with _ | ⟨c, begun⟩
      · rw [arrayItems, here] at found
        obtain ⟨_, first, _⟩ := Option.bind_eq_some_iff.mp found
        obtain ⟨_, _, ⟨⟩, _⟩ := solid first
      · rw [here] at suffix
        by_cases closes : c = ']'
        · subst closes
          rw [arrayItems_end here] at found
          cases found
          refine ⟨(List.suffix_cons _ _).trans suffix, fun more => ?_⟩
          exact arrayItems_end
            (skipLines_length_append here (by decide) (by decide) more)
        · have noEnd (others rest : List Char) : c :: others ≠ ']' :: rest :=
            fun same => closes (List.cons.inj same).1
          rw [arrayItems_item here (noEnd _)] at found
          obtain ⟨⟨value, behind⟩, first, later⟩ :=
            Option.bind_eq_some_iff.mp found
          have suffix := (stands.suffix first).trans suffix
          obtain ⟨_, _, ⟨⟩, noComment, noReturn⟩ := solid first
          -- The delimiter behind the item keeps it from going on.
          have again (delimited : Bounded behind) (more : List Char) :
              arrayItems item (enough + 1) (text ++ more) =
                afterItem item enough value (behind ++ more) := by
            rw [arrayItems_item
                (skipLines_length_append here noComment noReturn more) (noEnd _),
              ← List.cons_append,
              stands.stays_of_bounded first delimited more, Option.bind_some]
          obtain ⟨next, others, comma, inner, rfl⟩ | ⟨close, rfl⟩ :=
            afterItem_cases later
          · obtain ⟨inside, stays⟩ := ih longer inner
            have behindComma := comma ▸ skipLines_suffix behind.length behind
            refine ⟨inside.trans ((List.suffix_cons _ _).trans
              (behindComma.trans suffix)), fun more => ?_⟩
            rw [again (bounded_of_skipLines comma rfl), afterItem_comma
              (skipLines_length_append comma (by decide) (by decide) more),
              stays more]
            rfl
          · have behindClose := close ▸ skipLines_suffix behind.length behind
            refine ⟨(List.suffix_cons _ _).trans (behindClose.trans suffix),
              fun more => ?_⟩
            rw [again (bounded_of_skipLines close rfl)]
            exact afterItem_end
              (skipLines_length_append close (by decide) (by decide) more)

/-! Lines and tables in braces -/

theorem keyValue_eq_some {text rest : List Char} {name : List String × String}
    {v : Value} :
    keyValue item text = some ((name, v), rest) ↔
      ∃ behind, key text = some (name, '=' :: behind) ∧
        item (skipBlanks behind) = some (v, rest) := by
  simp only [keyValue, Option.bind_eq_bind, Option.bind_eq_some_iff]
  constructor
  · rintro ⟨⟨_, _⟩, found, behind, equals, ⟨_, _⟩, value, same⟩
    cases same
    have equals := expect_eq_some_iff.mp equals
    dsimp only at equals
    subst equals
    exact ⟨behind, found, value⟩
  · rintro ⟨behind, found, value⟩
    exact ⟨_, found, behind, expect_eq_some_iff.mpr rfl, _, value, rfl⟩

theorem stands_keyValue (stands : Stands Torn item) (solid : BeginsSolid item) :
    Stands (fun text more line whole => line.1 = whole.1 ∧
      ∃ begun, begun <:+ text ∧ Torn begun more line.2 whole.2)
      (keyValue item) where
  suffix {text line rest} found := by
    obtain ⟨behind, name, value⟩ := keyValue_eq_some.mp found
    exact (stands.suffix value).trans ((skipBlanks_suffix behind).trans
      ((List.suffix_cons _ _).trans (halted_key.suffix name)))
  stays {text line rest} found more := by
    obtain ⟨behind, name, value⟩ := keyValue_eq_some.mp found
    have again := halted_key.stays name (List.cons_ne_nil _ _) more
    have full : skipBlanks behind ≠ [] := by
      intro empty
      obtain ⟨_, _, begins, _⟩ := solid value
      rw [empty] at begins
      cases begins
    obtain same | ⟨free, lines, torn⟩ := stands.stays value more
    · refine .inl (keyValue_eq_some.mpr ⟨behind ++ more, again, ?_⟩)
      rw [skipBlanks_append full, same]
    · have inside := (skipBlanks_suffix behind).trans
        ((List.suffix_cons _ _).trans (halted_key.suffix name))
      refine .inr ⟨free, fun ends => lines ?_, fun ⟨_, whole⟩ tail read => ?_⟩
      · exact ends_of_suffix ends inside full
      · obtain ⟨behind', name', value'⟩ := keyValue_eq_some.mp read
        rw [again] at name'
        cases name'
        have value' : item (skipBlanks (behind ++ more)) = some (whole, tail) :=
          value'
        rw [skipBlanks_append full] at value'
        exact ⟨rfl, _, inside, torn _ _ value'⟩

theorem braceItems_eq_some {fuel : Nat} {text rest : List Char}
    {entries result : Entries} :
    braceItems item (fuel + 1) entries text = some (result, rest) ↔
      ∃ path name v behind added,
        keyValue item text = some (((path, name), v), behind) ∧
        entries.addLine .inline path name v = some added ∧
        ((∃ next, skipBlanks behind = ',' :: next ∧
            braceItems item fuel added next = some (result, rest)) ∨
          (skipBlanks behind = '}' :: rest ∧ result = added)) := by
  simp only [braceItems, Option.bind_eq_bind, Option.bind_eq_some_iff]
  constructor
  · rintro ⟨⟨⟨⟨path, name⟩, v⟩, behind⟩, line, added, adds, later⟩
    refine ⟨path, name, v, behind, added, line, adds, ?_⟩
    dsimp only at later
    split at later
    · exact .inl ⟨_, ‹_›, later⟩
    · cases later
      exact .inr ⟨‹_›, rfl⟩
    · cases later
  · rintro ⟨path, name, v, behind, added, line, adds, later⟩
    refine ⟨_, line, added, adds, ?_⟩
    obtain ⟨next, comma, inner⟩ | ⟨close, rfl⟩ := later
    · simp only [comma, inner]
    · simp only [close]

theorem braceItems_append (stands : Stands Torn item) (solid : BeginsSolid item)
    {fuel enough : Nat} {text rest : List Char} {entries result : Entries}
    (longer : fuel ≤ enough)
    (found : braceItems item fuel entries text = some (result, rest)) :
    rest <:+ text ∧ ∀ more,
      braceItems item enough entries (text ++ more) =
        some (result, rest ++ more) := by
  induction fuel generalizing text entries enough with
  | zero => cases found
  | succ fuel ih =>
      obtain _ | enough := enough
      · exact absurd longer (Nat.not_succ_le_zero fuel)
      have longer := Nat.le_of_succ_le_succ longer
      obtain ⟨path, name, v, behind, added, line, adds, later⟩ :=
        braceItems_eq_some.mp found
      have standsLine := stands_keyValue stands solid
      have suffix := (skipBlanks_suffix behind).trans (standsLine.suffix line)
      have delimited {c : Char} {next : List Char} (delimits : isDelimiter c)
          (here : skipBlanks behind = c :: next) : Bounded behind :=
        Bounded.of_suffix (bounded_cons.mpr (.inl delimits))
          (here ▸ skipBlanks_suffix behind)
      obtain ⟨next, comma, inner⟩ | ⟨close, rfl⟩ := later
      · obtain ⟨inside, stays⟩ := ih longer inner
        rw [comma] at suffix
        refine ⟨inside.trans ((List.suffix_cons _ _).trans suffix), fun more => ?_⟩
        refine braceItems_eq_some.mpr ⟨path, name, v, behind ++ more, added,
          standsLine.stays_of_bounded line (delimited rfl comma) more, adds,
          .inl ⟨next ++ more, ?_, stays more⟩⟩
        rw [skipBlanks_append (comma ▸ List.cons_ne_nil _ _), comma]
        rfl
      · rw [close] at suffix
        refine ⟨(List.suffix_cons _ _).trans suffix, fun more => ?_⟩
        refine braceItems_eq_some.mpr ⟨path, name, v, behind ++ more, result,
          standsLine.stays_of_bounded line (delimited rfl close) more, adds,
          .inr ⟨?_, rfl⟩⟩
        rw [skipBlanks_append (close ▸ List.cons_ne_nil _ _), close]
        rfl

/-! Values -/

theorem value_of_scalar {depth : Nat} {c : Char} {behind : List Char}
    (noBracket : c ≠ '[') (noBrace : c ≠ '{') :
    value (depth + 1) (c :: behind) = scalarValue (c :: behind) := by
  unfold value
  split
  · rename_i here
    exact absurd (List.cons.inj here).1 noBracket
  · rename_i here
    exact absurd (List.cons.inj here).1 noBrace
  · rfl

theorem value_cases {depth : Nat} {text rest : List Char} {v : Value}
    (found : value (depth + 1) text = some (v, rest)) :
    (∃ behind items, text = '[' :: behind ∧
        arrayItems (value depth) (behind.length + 1) behind =
          some (items, rest) ∧ v = .array items) ∨
      (∃ behind, text = '{' :: behind ∧ skipBlanks behind = '}' :: rest ∧
        v = .table .inline []) ∨
      (∃ behind c next entries, text = '{' :: behind ∧
        skipBlanks behind = c :: next ∧ c ≠ '}' ∧
        braceItems (value depth) ((c :: next).length + 1) [] (c :: next) =
          some (entries, rest) ∧ v = .table .inline entries) ∨
      (∃ c behind, text = c :: behind ∧ c ≠ '[' ∧ c ≠ '{' ∧
        scalarValue text = some (v, rest)) := by
  rw [value] at found
  dsimp only at found
  split at found
  · rename_i behind
    obtain ⟨⟨items, tail⟩, inner, same⟩ := Option.map_eq_some_iff.mp found
    cases same
    exact .inl ⟨behind, items, rfl, inner, rfl⟩
  · rename_i behind
    split at found
    · cases found
      exact .inr (.inl ⟨behind, rfl, ‹_›, rfl⟩)
    · rename_i noClose
      obtain ⟨⟨entries, tail⟩, inner, same⟩ := Option.map_eq_some_iff.mp found
      cases same
      rcases here : skipBlanks behind with _ | ⟨c, next⟩
      · rw [here] at inner
        cases inner
      · refine .inr (.inr (.inl ⟨behind, c, next, entries, rfl, here, ?_,
          here ▸ inner, rfl⟩))
        rintro rfl
        exact noClose next here
  · rename_i noBracket noBrace
    obtain ⟨c, behind, rfl, _⟩ := head_of_scalarValue found
    refine .inr (.inr (.inr ⟨c, behind, rfl, ?_, ?_, found⟩))
    · rintro rfl
      exact noBracket behind rfl
    · rintro rfl
      exact noBrace behind rfl

theorem value_of_braces {depth : Nat} {behind next : List Char} {c : Char}
    (here : skipBlanks behind = c :: next) (full : c ≠ '}') :
    value (depth + 1) ('{' :: behind) =
      (braceItems (value depth) ((c :: next).length + 1) [] (c :: next)).map
        fun found => (.table .inline found.1, found.2) := by
  rw [value]
  simp only [here]
  split
  · rename_i same
    exact absurd (List.cons.inj same).1 full
  · rfl

section
variable {depth : Nat} (stands : Stands Torn (value depth))
  (solid : BeginsSolid (value depth))
include stands solid

theorem Stands.value : Stands Torn (value (depth + 1)) where
  suffix {text v rest} found := by
    obtain ⟨behind, items, rfl, inner, _⟩ | ⟨behind, rfl, close, _⟩ |
      ⟨behind, c, next, entries, rfl, here, _, inner, _⟩ |
      ⟨_, _, _, _, _, scalar⟩ := value_cases found
    · exact (arrayItems_append stands solid (Nat.le_refl _) inner).1.trans
        (List.suffix_cons _ _)
    · exact (List.suffix_cons _ _).trans
        ((close ▸ skipBlanks_suffix behind).trans (List.suffix_cons _ _))
    · exact (braceItems_append stands solid (Nat.le_refl _) inner).1.trans
        ((here ▸ skipBlanks_suffix behind).trans (List.suffix_cons _ _))
    · exact stands_scalarValue.suffix scalar
  stays {text v rest} found more := by
    obtain ⟨behind, items, rfl, inner, rfl⟩ | ⟨behind, rfl, close, rfl⟩ |
      ⟨behind, c, next, entries, rfl, here, full, inner, rfl⟩ |
      ⟨c, behind, rfl, noBracket, noBrace, scalar⟩ := value_cases found
    · left
      have longer : behind.length + 1 ≤ (behind ++ more).length + 1 := by
        rw [List.length_append]
        omega
      rw [List.cons_append, Toml.value]
      simp only [(arrayItems_append stands solid longer inner).2 more,
        Option.map_some]
    · left
      have again := skipBlanks_append (close ▸ List.cons_ne_nil _ _) more
      rw [close] at again
      rw [List.cons_append, Toml.value]
      simp only [again, List.cons_append]
    · left
      have again : skipBlanks (behind ++ more) = c :: (next ++ more) := by
        rw [skipBlanks_append (here ▸ List.cons_ne_nil _ _) more, here]
        rfl
      have longer : (c :: next).length + 1 ≤
          (c :: (next ++ more)).length + 1 := by
        simp only [List.length_cons, List.length_append]
        omega
      have stays := (braceItems_append stands solid longer inner).2 more
      rw [List.cons_append] at stays
      rw [List.cons_append, value_of_braces again full, stays]
      rfl
    · rw [List.cons_append, value_of_scalar noBracket noBrace]
      exact stands_scalarValue.stays scalar more

end

theorem beginsSolid_value (depth : Nat) : BeginsSolid (value (depth + 1)) := by
  intro text ⟨v, rest⟩ read
  obtain ⟨_, _, rfl, _⟩ | ⟨_, rfl, _⟩ | ⟨_, _, _, _, rfl, _⟩ |
    ⟨_, _, _, _, _, scalar⟩ := value_cases read
  · exact ⟨_, _, rfl, by decide⟩
  · exact ⟨_, _, rfl, by decide⟩
  · exact ⟨_, _, rfl, by decide⟩
  · exact head_of_scalarValue scalar

theorem stands_value (depth : Nat) :
    Stands Torn (value depth) ∧ BeginsSolid (value depth) := by
  induction depth with
  | zero => exact ⟨stands_scalarValue, head_of_scalarValue⟩
  | succ depth ih => exact ⟨ih.1.value ih.2, beginsSolid_value depth⟩

end Tollgate.Toml
