import Tollgate.Proofs.Toml.Nested

/-!
The lines of a text that goes on. Each line that ends in the text is read the
same; the last one, if it does not end there, may have a torn value.
-/

namespace Tollgate.Toml

/-- What is read of a line. -/
inductive Draft.Takes (d : Draft) (text : List Char) : Draft → List Char → Prop where
  | element {behind tail rest : List Char} {path : List String} {name : String}
      {d' : Draft} (begins : text = '[' :: '[' :: behind)
      (header : key behind = some ((path, name), ']' :: ']' :: tail))
      (ends : afterLine? tail = some rest)
      (opens : d.openElement path name = some d') : d.Takes text d' rest
  | table {behind tail rest : List Char} {path : List String} {name : String}
      {d' : Draft} (begins : text = '[' :: behind)
      (single : ∀ others, behind ≠ '[' :: others)
      (header : key behind = some ((path, name), ']' :: tail))
      (ends : afterLine? tail = some rest)
      (opens : d.openTable path name = some d') : d.Takes text d' rest
  | nothing {rest : List Char} (noHeader : ∀ others, text ≠ '[' :: others)
      (ends : afterLine? text = some rest) : d.Takes text d rest
  | entry {tail rest : List Char} {path : List String} {name : String} {v : Value}
      {d' : Draft} (noHeader : ∀ others, text ≠ '[' :: others)
      (more : afterLine? text = none)
      (line : keyValue (value (depthLimit - 1)) text =
        some (((path, name), v), tail))
      (ends : afterLine? tail = some rest)
      (adds : d.addLine path name v = some d') : d.Takes text d' rest

/-- How what was read of a line at the end of a text, and what is read of the
whole line, go together. -/
inductive Draft.Alike (d : Draft) (text more : List Char) (d' : Draft)
    (rest : List Char) (whole : Draft) (behind : List Char) : Prop where
  | ended (same : whole = d') (there : behind = rest ++ more)
  | complete (atEnd : rest = []) (same : whole = d')
  | nothing (atEnd : rest = []) (same : d' = d)
  | torn {path : List String} {name : String} {begun : List Char} {v w : Value}
      (atEnd : rest = []) (inside : ¬ ['\n'] <:+ text) (begins : begun <:+ text)
      (torn : Torn begun more v w)
      (part : d.addLine path name v = some d')
      (all : d.addLine path name w = some whole)

theorem Draft.Takes.suffix {d d' : Draft} {text rest : List Char}
    (takes : d.Takes text d' rest) : rest <:+ text := by
  cases takes with
  | element begins header ends _ =>
      subst begins
      exact (afterLine?_cases ends).1.trans ((List.suffix_append [']', ']'] _).trans
        ((halted_key.suffix header).trans (List.suffix_append ['[', '['] _)))
  | table begins _ header ends _ =>
      subst begins
      exact (afterLine?_cases ends).1.trans ((List.suffix_cons _ _).trans
        ((halted_key.suffix header).trans (List.suffix_cons _ _)))
  | nothing _ ends => exact (afterLine?_cases ends).1
  | entry _ _ line ends _ =>
      obtain ⟨stands, solid⟩ := stands_value (depthLimit - 1)
      exact (afterLine?_cases ends).1.trans
        ((stands_keyValue stands solid).suffix line)

theorem afterLine?_of_key {text rest : List Char} {name : List String × String}
    {c : Char} {others : List Char} (begins : text = c :: others)
    (solid : isBlank c = false) (found : key text = some (name, rest)) :
    afterLine? text = none := by
  subst begins
  obtain ⟨_, _, here, noComment, noFeed, noReturn⟩ := head_of_key found
  rw [skipBlanks_cons solid] at here
  cases here
  rw [afterLine?, skipBlanks_cons solid, skipComment_cons noComment]
  exact afterNewline?_cons noFeed noReturn others

theorem Draft.Alike.of_ends {d d' : Draft} {text more tail rest behind : List Char}
    (ends : afterLine? tail = some rest)
    (ends' : afterLine? (tail ++ more) = some behind) :
    d.Alike text more d' rest d' behind := by
  obtain atEnd | ⟨_, stays⟩ := (afterLine?_cases ends).2
  · exact .complete atEnd rfl
  · cases (stays more).symm.trans ends'
    exact .ended rfl rfl

theorem noHeader_append {text others : List Char} {c : Char}
    (begins : text = c :: others) (noHeader : ∀ behind, text ≠ '[' :: behind)
    (more behind : List Char) : text ++ more ≠ '[' :: behind := by
  subst begins
  intro bracket
  exact noHeader others ((List.cons.inj bracket).1 ▸ rfl)

/-- An entry is read the same when the text goes on, or its value is torn. -/
theorem Draft.Alike.of_entry {d d' whole : Draft}
    {text more tail rest tail' behind : List Char} {path path' : List String}
    {name name' : String} {v w : Value}
    (line : keyValue (value (depthLimit - 1)) text = some (((path, name), v), tail))
    (ends : afterLine? tail = some rest) (adds : d.addLine path name v = some d')
    (line' : keyValue (value (depthLimit - 1)) (text ++ more) =
      some (((path', name'), w), tail'))
    (ends' : afterLine? tail' = some behind)
    (adds' : d.addLine path' name' w = some whole) :
    d.Alike text more d' rest whole behind := by
  obtain ⟨stands, solid⟩ := stands_value (depthLimit - 1)
  obtain same | ⟨free, inside, torn⟩ :=
    (stands_keyValue stands solid).stays line more
  · cases same.symm.trans line'
    cases adds.symm.trans adds'
    exact .of_ends ends ends'
  · obtain ⟨names, _, begins, torn⟩ := torn _ _ line'
    cases names
    obtain atEnd | ⟨bounded, _⟩ := (afterLine?_cases ends).2
    · exact .torn atEnd inside begins torn adds adds'
    · exact absurd bounded free

theorem Draft.Takes.alike {d d' whole : Draft}
    {text more rest behind others : List Char} {c : Char}
    (begins : text = c :: others) (solid : isBlank c = false)
    (part : d.Takes text d' rest) (all : d.Takes (text ++ more) whole behind) :
    d.Alike text more d' rest whole behind := by
  cases part with
  | element bracket header ends opens =>
      subst bracket
      have again := halted_key.stays header (List.cons_ne_nil _ _) more
      cases all with
      | element bracket' header' ends' opens' =>
          cases bracket'
          cases again.symm.trans header'
          cases opens.symm.trans opens'
          exact .of_ends ends ends'
      | table bracket' single _ _ _ =>
          cases bracket'
          exact absurd rfl (single _)
      | nothing noHeader _ => exact absurd rfl (noHeader _)
      | entry noHeader _ _ _ _ => exact absurd rfl (noHeader _)
  | @table first _ _ _ _ _ bracket single header ends opens =>
      subst bracket
      have again := halted_key.stays header (List.cons_ne_nil _ _) more
      cases all with
      | element bracket' _ _ _ =>
          have second := (List.cons.inj bracket').2
          obtain _ | ⟨d, others⟩ := first
          · have nothing : key [] = none := rfl
            rw [nothing] at header
            cases header
          · obtain ⟨rfl, _⟩ := List.cons.inj second
            exact absurd rfl (single others)
      | table bracket' _ header' ends' opens' =>
          cases bracket'
          cases again.symm.trans header'
          cases opens.symm.trans opens'
          exact .of_ends ends ends'
      | nothing noHeader _ => exact absurd rfl (noHeader _)
      | entry noHeader _ _ _ _ => exact absurd rfl (noHeader _)
  | nothing noHeader ends =>
      have noHeader' := noHeader_append begins noHeader more
      obtain atEnd | ⟨_, stays⟩ := (afterLine?_cases ends).2
      · exact .nothing atEnd rfl
      · cases all with
        | element bracket' _ _ _ => exact absurd bracket' (noHeader' _)
        | table bracket' _ _ _ _ => exact absurd bracket' (noHeader' _)
        | nothing _ ends' => exact .of_ends ends ends'
        | entry _ more' _ _ _ =>
            rw [stays more] at more'
            cases more'
  | entry noHeader _ line ends adds =>
      have noHeader' := noHeader_append begins noHeader more
      cases all with
      | element bracket' _ _ _ => exact absurd bracket' (noHeader' _)
      | table bracket' _ _ _ _ => exact absurd bracket' (noHeader' _)
      | nothing _ ends' =>
          obtain ⟨_, found, _⟩ := keyValue_eq_some.mp line
          have again := halted_key.stays found (List.cons_ne_nil _ _) more
          rw [afterLine?_of_key (congrArg (· ++ more) begins) solid again] at ends'
          cases ends'
      | entry _ _ line' ends' adds' => exact .of_entry line ends adds line' ends' adds'

/-! All lines -/

/-- What is read of a text, line by line. -/
inductive Draft.Reads : Draft → List Char → Draft → Prop where
  | done {d : Draft} {text : List Char} (blank : skipBlanks text = []) :
      d.Reads text d
  | line {d d' d'' : Draft} {text rest others : List Char} {c : Char}
      (begins : skipBlanks text = c :: others)
      (first : d.Takes (c :: others) d' rest) (later : d'.Reads rest d'') :
      d.Reads text d''

theorem Draft.Reads.eq_of_nil {d d' : Draft} (reads : d.Reads [] d') : d' = d := by
  cases reads with
  | done => rfl
  | line begins _ _ => cases begins

/-- A text that goes on is read by way of what its beginning gives, but for a
value that may be torn, when the beginning does not end with a line. -/
theorem Draft.Reads.beginning {d part whole : Draft} {text more : List Char}
    (reads : d.Reads text part) (all : d.Reads (text ++ more) whole) :
    ∃ d' behind, d'.Reads behind whole ∧
      (d' = part ∨
        (text ≠ [] ∧ ¬ ['\n'] <:+ text ∧ ∃ before path name begun v w,
          begun <:+ text ∧ Torn begun more v w ∧
          Draft.addLine before path name v = some part ∧
          before.addLine path name w = some d')) := by
  induction reads with
  | done => exact ⟨_, _, all, .inl rfl⟩
  | @line d d' part text rest others c begins first later ih =>
      have again : skipBlanks (text ++ more) = c :: (others ++ more) := by
        rw [skipBlanks_append (begins ▸ List.cons_ne_nil _ _), begins]
        rfl
      have solid : isBlank c = false := by
        have begins : text.dropWhile isBlank = c :: others := begins
        have head := List.head?_dropWhile_not isBlank text
        rwa [begins] at head
      have inside := begins ▸ skipBlanks_suffix text
      have later_eq (atEnd : rest = []) : part = d' := by
        subst atEnd
        exact later.eq_of_nil
      cases all with
      | done blank =>
          rw [again] at blank
          cases blank
      | line begins' first' later' =>
          cases again.symm.trans begins'
          cases first.alike rfl solid first' with
          | ended same there =>
              subst same there
              obtain ⟨d'', behind, reads, eq | ⟨full, lines, before, path, name,
                begun, v, w, ends, torn⟩⟩ := ih later'
              · exact ⟨d'', behind, reads, .inl eq⟩
              · have within := first.suffix.trans inside
                refine ⟨d'', behind, reads, .inr ⟨?_, fun ends => ?_, before, path,
                  name, begun, v, w, ends.trans within, torn⟩⟩
                · rintro rfl
                  exact full (List.suffix_nil.mp within)
                · exact lines (ends_of_suffix ends within full)
          | complete atEnd same =>
              exact ⟨_, _, later', .inl (same.trans (later_eq atEnd).symm)⟩
          | nothing atEnd same =>
              refine ⟨d, _, .line again first' later', .inl ?_⟩
              rw [later_eq atEnd, same]
          | torn atEnd lines begun torn part all =>
              rw [later_eq atEnd]
              refine ⟨_, _, later', .inr ⟨?_, fun ends => lines ?_,
                d, _, _, _, _, _, begun.trans inside, torn, part, all⟩⟩
              · rintro rfl
                cases begins
              · exact ends_of_suffix ends inside (List.cons_ne_nil _ _)

end Tollgate.Toml
