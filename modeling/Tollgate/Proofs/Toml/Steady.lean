import Mathlib.Data.List.TakeWhile
import Tollgate.Toml.Number

/-!
Numbers and dates in front of a delimiter. Reading one never goes past the
delimiter, whether it succeeds or fails, so it comes out the same whatever is
written behind. The scanners are put together from a few kinds of steps, and
that they are steady is put together in the same way.
-/

namespace Tollgate.Toml

/-- The characters that end a number wherever they stand. -/
def isDelimiter (c : Char) : Bool :=
  c == ',' || c == ']' || c == '}' || c == '#' || c == '\n'

/-- A delimiter stands ahead. -/
def Bounded (text : List Char) : Prop :=
  ∃ c ∈ text, isDelimiter c

theorem bounded_cons {c : Char} {rest : List Char} :
    Bounded (c :: rest) ↔ isDelimiter c ∨ Bounded rest := by
  simp [Bounded]

theorem Bounded.tail {c : Char} {rest : List Char}
    (bounded : Bounded (c :: rest)) (plain : isDelimiter c = false) :
    Bounded rest := by
  simpa [bounded_cons, plain] using bounded

theorem not_bounded_nil : ¬ Bounded [] := by
  simp [Bounded]

theorem Bounded.of_suffix {text rest : List Char} (bounded : Bounded rest)
    (suffix : rest <:+ text) : Bounded text := by
  obtain ⟨c, member, delimits⟩ := bounded
  exact ⟨c, suffix.subset member, delimits⟩

theorem dropWhile_append_of_ne_nil {p : Char → Bool} {text : List Char}
    (stops : text.dropWhile p ≠ []) (more : List Char) :
    (text ++ more).takeWhile p = text.takeWhile p ∧
      (text ++ more).dropWhile p = text.dropWhile p ++ more := by
  have behind : (text.dropWhile p).isEmpty = false := by
    rwa [List.isEmpty_eq_false_iff]
  have dropped : (text ++ more).dropWhile p = text.dropWhile p ++ more := by
    rw [List.dropWhile_append, behind]
    rfl
  have whole : (text ++ more).takeWhile p ++ (text ++ more).dropWhile p =
      text.takeWhile p ++ (text ++ more).dropWhile p := by
    rw [List.takeWhile_append_dropWhile, dropped, ← List.append_assoc,
      List.takeWhile_append_dropWhile]
  exact ⟨List.append_cancel_right whole, dropped⟩

theorem Bounded.of_append {first second : List Char}
    (bounded : Bounded (first ++ second))
    (plain : ∀ c ∈ first, isDelimiter c = false) : Bounded second := by
  obtain ⟨c, member, delimits⟩ := bounded
  refine ⟨c, (List.mem_append.mp member).resolve_left fun inside => ?_, delimits⟩
  rw [plain c inside] at delimits
  cases delimits

section
variable {p : Char → Bool} {text : List Char}

theorem Bounded.drop {count : Nat} (bounded : Bounded text)
    (plain : ∀ c, p c → isDelimiter c = false)
    (all : (text.take count).all p) : Bounded (text.drop count) := by
  rw [← text.take_append_drop count] at bounded
  exact bounded.of_append fun c inside => plain c (List.all_eq_true.mp all c inside)

theorem Bounded.dropWhile (bounded : Bounded text)
    (plain : ∀ c, p c → isDelimiter c = false) : Bounded (text.dropWhile p) := by
  rw [← text.takeWhile_append_dropWhile (p := p)] at bounded
  exact bounded.of_append fun c inside => plain c (List.mem_takeWhile_imp inside)

theorem Bounded.while_append (bounded : Bounded text)
    (plain : ∀ c, p c → isDelimiter c = false) (more : List Char) :
    (text ++ more).takeWhile p = text.takeWhile p ∧
      (text ++ more).dropWhile p = text.dropWhile p ++ more := by
  refine dropWhile_append_of_ne_nil ?_ more
  intro empty
  have behind := bounded.dropWhile plain
  rw [empty] at behind
  exact not_bounded_nil behind

end

/-- What carries the text ahead, perhaps with something read before it. -/
class Ahead (γ : Type) where
  ahead : γ → List Char
  further : γ → List Char → γ

export Ahead (ahead further)

instance : Ahead (List Char) := ⟨id, (· ++ ·)⟩

instance {α γ : Type} [Ahead γ] : Ahead (α × γ) :=
  ⟨fun p => ahead p.2, fun p more => (p.1, further p.2 more)⟩

/-- A step that stops in front of a delimiter and does not look behind it. -/
structure Steady {γ δ : Type} [Ahead γ] [Ahead δ] (f : γ → Option δ) :
    Prop where
  suffix : ∀ {g d}, f g = some d → ahead d <:+ ahead g
  bounded : ∀ {g d}, f g = some d → Bounded (ahead g) → Bounded (ahead d)
  stays : ∀ {g}, Bounded (ahead g) → ∀ more,
    f (further g more) = (f g).map (further · more)

namespace Steady

variable {α γ δ ε : Type} [Ahead γ] [Ahead δ] [Ahead ε]

/-! Putting steps together -/

theorem refuse : Steady fun _ : γ => (none : Option δ) :=
  ⟨nofun, nofun, fun _ _ => rfl⟩

theorem note (a : α) : Steady fun g : γ => some (a, g) where
  suffix := by
    rintro g _ ⟨⟩
    exact List.suffix_rfl
  bounded := by
    rintro g _ ⟨⟩ bounded
    exact bounded
  stays _ _ := rfl

theorem keep : Steady fun g : γ => some g where
  suffix := by
    rintro g _ ⟨⟩
    exact List.suffix_rfl
  bounded := by
    rintro g _ ⟨⟩ bounded
    exact bounded
  stays _ _ := rfl

theorem bind {f : γ → Option δ} {k : δ → Option ε} (first : Steady f)
    (second : Steady k) : Steady fun g => (f g).bind k where
  suffix := by
    intro g e read
    obtain ⟨d, here, there⟩ := Option.bind_eq_some_iff.mp read
    exact (second.suffix there).trans (first.suffix here)
  bounded := by
    intro g e read bounded
    obtain ⟨d, here, there⟩ := Option.bind_eq_some_iff.mp read
    exact second.bounded there (first.bounded here bounded)
  stays := by
    intro g bounded more
    rw [first.stays bounded more]
    cases here : f g with
    | none => rfl
    | some d => exact second.stays (first.bounded here bounded) more

theorem pair {f : α → γ → Option δ} (each : ∀ a, Steady (f a)) :
    Steady fun p : α × γ => f p.1 p.2 where
  suffix read := (each _).suffix read
  bounded read := (each _).bounded read
  stays bounded more := (each _).stays bounded more

theorem ofPair {f : α × γ → Option δ} (each : ∀ a, Steady fun g => f (a, g)) :
    Steady f :=
  pair each

theorem turned {α β : Type} {f : γ → Option (α × δ)} (first : Steady f)
    (turn : α → β) : Steady fun g => (f g).map fun p => (turn p.1, p.2) := by
  have both := first.bind (.pair fun a => .note (turn a))
  simpa only [Option.map_eq_bind, Function.comp_def] using both

theorem ite {c : Prop} [Decidable c] {f g : γ → Option δ} (first : Steady f)
    (second : Steady g) : Steady fun x => if c then f x else g x := by
  split
  · exact first
  · exact second

theorem orElse {f : γ → Option δ} {k : δ → Option ε} {g : γ → Option ε}
    (first : Steady f) (success : Steady k) (failure : Steady g) :
    Steady fun x => match f x with
      | some d => k d
      | none => g x where
  suffix := by
    intro x e read
    split at read
    · rename_i d here
      exact (success.suffix read).trans (first.suffix here)
    · exact failure.suffix read
  bounded := by
    intro x e read bounded
    split at read
    · rename_i d here
      exact success.bounded read (first.bounded here bounded)
    · exact failure.bounded read bounded
  stays := by
    intro x bounded more
    rw [first.stays bounded more]
    cases here : f x with
    | none => exact failure.stays bounded more
    | some d => exact success.stays (first.bounded here bounded) more

/-- A step that looks at the first character: either it is read, and is no
delimiter, or the step is another one. -/
theorem byHead {f other : List Char → Option δ} (steady : Steady other)
    (empty : f [] = other [])
    (each : ∀ c, (∀ rest, f (c :: rest) = other (c :: rest)) ∨
      (isDelimiter c = false ∧
        ∃ g : List Char → Option δ, Steady g ∧ ∀ rest, f (c :: rest) = g rest)) :
    Steady f where
  suffix := by
    rintro (_ | ⟨c, rest⟩) d read
    · exact steady.suffix (empty ▸ read)
    · rcases each c with same | ⟨_, g, inner, same⟩
      · exact steady.suffix ((same rest).symm.trans read)
      · exact (inner.suffix ((same rest).symm.trans read)).trans
          (List.suffix_cons c rest)
  bounded := by
    rintro (_ | ⟨c, rest⟩) d read bounded
    · exact absurd bounded not_bounded_nil
    · rcases each c with same | ⟨plain, g, inner, same⟩
      · exact steady.bounded ((same rest).symm.trans read) bounded
      · exact inner.bounded ((same rest).symm.trans read) (bounded.tail plain)
  stays := by
    rintro (_ | ⟨c, rest⟩) bounded more
    · exact absurd bounded not_bounded_nil
    · change f (c :: (rest ++ more)) = _
      rcases each c with same | ⟨plain, g, inner, same⟩
      · rw [same, same]
        exact steady.stays bounded more
      · rw [same, same]
        exact inner.stays (bounded.tail plain) more

theorem congr {f g : γ → Option δ} (steady : Steady f) (same : ∀ x, g x = f x) :
    Steady g := by
  rwa [funext same]

end Steady

/-! Digits -/

theorem moreDigits_read {isDigit : Char → Bool}
    (plain : ∀ c, isDigit c → isDelimiter c = false) (text : List Char) :
    ∃ read, text = read ++ (moreDigits isDigit text).2 ∧
      ∀ c ∈ read, isDelimiter c = false := by
  fun_induction moreDigits isDigit text with
  | case1 c rest digit digits after here ih =>
      rw [here] at ih
      obtain ⟨read, whole, apart⟩ := ih
      refine ⟨'_' :: c :: read, congrArg ('_' :: c :: ·) whole, ?_⟩
      simp only [List.forall_mem_cons]
      exact ⟨rfl, plain c digit, apart⟩
  | case2 => exact ⟨[], rfl, nofun⟩
  | case3 c rest _ digit digits after here ih =>
      rw [here] at ih
      obtain ⟨read, whole, apart⟩ := ih
      exact ⟨c :: read, congrArg (c :: ·) whole,
        List.forall_mem_cons.mpr ⟨plain c digit, apart⟩⟩
  | case4 => exact ⟨[], rfl, nofun⟩
  | case5 => exact ⟨[], rfl, nofun⟩

theorem single_append {c : Char} {rest : List Char}
    (bounded : Bounded (c :: rest))
    (single : ∀ d others, c = '_' → rest = d :: others → False)
    (more : List Char) :
    ∀ d others, c = '_' → rest ++ more = d :: others → False := by
  rintro d others rfl _
  obtain _ | ⟨e, others⟩ := rest
  · exact not_bounded_nil (bounded.tail rfl)
  · exact single e others rfl rfl

theorem moreDigits_append {isDigit : Char → Bool}
    (plain : ∀ c, isDigit c → isDelimiter c = false) {text : List Char}
    (bounded : Bounded text) (more : List Char) :
    moreDigits isDigit (text ++ more) =
      ((moreDigits isDigit text).1, (moreDigits isDigit text).2 ++ more) := by
  fun_induction moreDigits isDigit text with
  | case1 c rest digit digits after here ih =>
      have later := ih ((bounded.tail rfl).tail (plain c digit))
      rw [here] at later
      simp only [List.cons_append, moreDigits, if_pos digit, later]
  | case2 c rest other =>
      simp only [List.cons_append, moreDigits, if_neg other]
  | case3 c rest single digit digits after here ih =>
      have later := ih (bounded.tail (plain c digit))
      rw [here] at later
      rw [List.cons_append, moreDigits, if_pos digit, later]
      exact single_append bounded single more
  | case4 c rest single other =>
      rw [List.cons_append, moreDigits, if_neg other]
      exact single_append bounded single more
  | case5 => exact absurd bounded not_bounded_nil

theorem steady_moreDigits {isDigit : Char → Bool}
    (plain : ∀ c, isDigit c → isDelimiter c = false) :
    Steady fun text => some (moreDigits isDigit text) where
  suffix := by
    rintro text _ ⟨⟩
    obtain ⟨read, whole, _⟩ := moreDigits_read plain text
    exact ⟨read, whole.symm⟩
  bounded := by
    rintro text _ ⟨⟩ ⟨c, member, delimits⟩
    obtain ⟨read, whole, apart⟩ := moreDigits_read plain text
    change c ∈ text at member
    rw [whole, List.mem_append] at member
    refine ⟨c, member.resolve_left fun inside => ?_, delimits⟩
    rw [apart c inside] at delimits
    cases delimits
  stays bounded more := congrArg some (moreDigits_append plain bounded more)

theorem steady_digitRun {isDigit : Char → Bool}
    (plain : ∀ c, isDigit c → isDelimiter c = false) :
    Steady (digitRun isDigit) := by
  refine .byHead .refuse rfl fun c => ?_
  by_cases digit : isDigit c
  · refine .inr ⟨plain c digit, _, (steady_moreDigits plain).bind
      (.pair fun digits => .note (c :: digits)), fun rest => ?_⟩
    simp only [digitRun, if_pos digit]
    rfl
  · exact .inl fun rest => by simp only [digitRun, if_neg digit]

theorem plain_of {isDigit : Char → Bool}
    (apart : [',', ']', '}', '#', '\n'].all fun d => !isDigit d) (c : Char)
    (digit : isDigit c) : isDelimiter c = false := by
  rw [Bool.eq_false_iff]
  intro delimits
  have delimiter : c ∈ [',', ']', '}', '#', '\n'] := by
    simpa [isDelimiter, or_assoc] using delimits
  have other := List.all_eq_true.mp apart c delimiter
  rw [digit] at other
  cases other

theorem plain_of_isDecimalDigit :
    ∀ c, isDecimalDigit c → isDelimiter c = false :=
  plain_of (by decide)

theorem steady_sign : Steady fun text => some (sign text) := by
  refine .byHead (.note false) rfl fun c => ?_
  by_cases minus : c = '-'
  · subst minus
    exact .inr ⟨rfl, _, .note true, fun _ => rfl⟩
  · by_cases plus : c = '+'
    · subst plus
      exact .inr ⟨rfl, _, .note false, fun _ => rfl⟩
    · refine .inl fun rest => ?_
      rw [sign] <;> simp [minus, plus]

theorem steady_wholeDigits : Steady wholeDigits := by
  refine .byHead (steady_digitRun plain_of_isDecimalDigit) rfl fun c => ?_
  by_cases zero : c = '0'
  · subst zero
    exact .inr ⟨rfl, _, .note ['0'], fun _ => rfl⟩
  · refine .inl fun rest => ?_
    rw [wholeDigits]
    simp [zero]

theorem expect_eq_some_iff {c : Char} {text rest : List Char} :
    expect c text = some rest ↔ text = c :: rest := by
  obtain _ | ⟨d, others⟩ := text
  · simp [expect]
  · simp [expect]

theorem steady_expect {d : Char} (plain : isDelimiter d = false) :
    Steady (expect d) := by
  refine .byHead .refuse rfl fun c => ?_
  by_cases same : c = d
  · subst same
    refine .inr ⟨plain, _, .keep, fun rest => ?_⟩
    simp only [expect, if_true]
  · exact .inl fun rest => by simp only [expect, if_neg same]

/-! Numbers -/

theorem steady_fraction? : Steady fraction? := by
  refine .byHead .refuse rfl fun c => ?_
  by_cases point : c = '.'
  · subst point
    exact .inr ⟨rfl, _, steady_digitRun plain_of_isDecimalDigit, fun _ => rfl⟩
  · refine .inl fun rest => ?_
    rw [fraction?]
    simp [point]

theorem steady_exponent? : Steady exponent? := by
  refine .byHead .refuse rfl fun c => ?_
  by_cases letter : c = 'e' ∨ c = 'E'
  · refine .inr ⟨by rcases letter with rfl | rfl <;> rfl, _,
      steady_sign.bind (.pair fun negative =>
        (steady_digitRun plain_of_isDecimalDigit).turned fun digits =>
          let power := Int.ofNat (digitsValue 10 digits)
          if negative then -power else power), fun rest => ?_⟩
    simp only [exponent?, Bool.or_eq_true, decide_eq_true_eq, if_pos letter]
    rfl
  · refine .inl fun rest => ?_
    simp only [exponent?, Bool.or_eq_true, decide_eq_true_eq, if_neg letter]

theorem steady_plainFloat : Steady plainFloat := by
  have tail := steady_fraction?.orElse
    (.pair fun fraction => steady_exponent?.orElse (.note fraction)
      ((Steady.note (0 : Int)).bind (.note fraction)))
    (steady_exponent?.bind (.note []))
  have whole := steady_sign.bind (.pair fun negative =>
    steady_wholeDigits.bind (.pair fun whole =>
      tail.bind (.pair fun fraction => .pair fun power =>
        let value := decimalFloat negative (digitsValue 10 (whole ++ fraction))
          (power - Int.ofNat fraction.length)
        .ite (c := value == positiveInfinity) .refuse (.note value))))
  refine whole.congr fun text => ?_
  unfold plainFloat
  obtain ⟨negative, text⟩ := sign text
  dsimp only [Option.bind_some]
  obtain _ | ⟨whole, text⟩ := wholeDigits text
  · rfl
  · simp only [Option.bind_eq_bind, Option.bind_some]
    obtain _ | ⟨fraction, text⟩ := fraction? text
    · obtain _ | ⟨power, text⟩ := exponent? text <;> rfl
    · dsimp only
      obtain _ | ⟨power, text⟩ := exponent? text <;> rfl

theorem steady_letters {a b c : Char} {α : Type} (value : α)
    (first : isDelimiter a = false) (second : isDelimiter b = false)
    (third : isDelimiter c = false) :
    Steady fun text : List Char =>
      ((expect a text).bind fun text => (expect b text).bind (expect c)).map
        fun rest => (value, rest) := by
  have whole := ((steady_expect first).bind
    ((steady_expect second).bind (steady_expect third))).bind (.note value)
  simpa only [Option.map_eq_bind, Function.comp_def] using whole

theorem steady_specialFloat : Steady specialFloat := by
  have whole := steady_sign.bind (.pair fun negative =>
    (steady_letters (a := 'i') (b := 'n') (c := 'f')
      (if negative then -positiveInfinity else positiveInfinity)
      rfl rfl rfl).orElse .keep
    (steady_letters (a := 'n') (b := 'a') (c := 'n') (0.0 / 0.0 : Float)
      rfl rfl rfl))
  refine whole.congr fun text => ?_
  unfold specialFloat
  obtain ⟨negative, text⟩ := sign text
  dsimp only [Option.bind_some]
  split
  · rename_i here
    obtain ⟨rfl, rfl⟩ := Prod.mk.inj here
    rfl
  · rename_i here
    obtain ⟨rfl, rfl⟩ := Prod.mk.inj here
    rfl
  · rename_i notInf notNan
    have noLetters {a b c : Char} (other : ∀ rest, text ≠ a :: b :: c :: rest) :
        ((expect a text).bind fun text => (expect b text).bind (expect c)) =
          none := by
      rw [Option.eq_none_iff_forall_ne_some]
      intro rest read
      simp only [Option.bind_eq_some_iff, expect_eq_some_iff] at read
      obtain ⟨_, rfl, _, rfl, rfl⟩ := read
      exact other rest rfl
    rw [noLetters fun rest same => notInf negative rest (same ▸ rfl),
      noLetters fun rest same => notNan negative rest (same ▸ rfl)]
    rfl

theorem steady_unsignedInteger {isDigit : Char → Bool}
    (plain : ∀ c, isDigit c → isDelimiter c = false) (base : Nat) :
    Steady (unsignedInteger base isDigit) := by
  refine ((steady_digitRun plain).bind (.pair fun digits =>
    let value := Int.ofNat (digitsValue base digits)
    .ite (c := inWord value) (.note value) .refuse)).congr fun text => ?_
  rfl

theorem steady_integer : Steady integer := by
  have decimal := steady_sign.bind (.pair fun negative =>
    steady_wholeDigits.bind (.pair fun digits =>
      let size := Int.ofNat (digitsValue 10 digits)
      let value := if negative then -size else size
      .ite (c := inWord value) (.note value) .refuse))
  refine .byHead decimal rfl fun c => ?_
  by_cases zero : c = '0'
  · subst zero
    have behindZero : Steady fun text => integer ('0' :: text) := by
      refine .byHead (.note 0) rfl fun c => ?_
      by_cases hex : c = 'x'
      · subst hex
        exact .inr ⟨rfl, _, steady_unsignedInteger (plain_of (by decide)) 16,
          fun _ => rfl⟩
      · by_cases octal : c = 'o'
        · subst octal
          exact .inr ⟨rfl, _, steady_unsignedInteger (plain_of (by decide)) 8,
            fun _ => rfl⟩
        · by_cases binary : c = 'b'
          · subst binary
            exact .inr ⟨rfl, _, steady_unsignedInteger (plain_of (by decide)) 2,
              fun _ => rfl⟩
          · refine .inl fun rest => ?_
            rw [integer]
            · rfl
            · simp [hex]
            · simp [octal]
            · simp [binary]
    exact .inr ⟨rfl, _, behindZero, fun _ => rfl⟩
  · refine .inl fun rest => ?_
    rw [integer]
    · rfl
    · simp [zero]
    · simp [zero]
    · simp [zero]

/-! Dates and times -/

theorem steady_fixedNumber (count : Nat) : Steady (fixedNumber count) where
  suffix {text d} read := by
    rw [fixedNumber] at read
    split at read
    · cases read
      exact List.drop_suffix count text
    · cases read
  bounded {text d} read bounded := by
    rw [fixedNumber] at read
    split at read
    · rename_i digits
      cases read
      rw [Bool.and_eq_true] at digits
      exact Bounded.drop bounded plain_of_isDecimalDigit digits.2
    · cases read
  stays {text} bounded more := by
    change fixedNumber count (text ++ more) = _
    by_cases enough : count ≤ text.length
    · simp only [fixedNumber, List.take_append_of_le_length enough,
        List.drop_append_of_le_length enough]
      split <;> rfl
    · obtain ⟨c, member, delimits⟩ := bounded
      have inside : c ∈ (text ++ more).take count := by
        rw [List.take_append, List.take_of_length_le (Nat.le_of_not_le enough)]
        exact List.mem_append_left _ member
      have failed : fixedNumber count (text ++ more) = none := by
        rw [fixedNumber, if_neg]
        intro digits
        rw [Bool.and_eq_true, List.all_eq_true] at digits
        rw [plain_of_isDecimalDigit c (digits.2 c inside)] at delimits
        cases delimits
      have short : fixedNumber count text = none := by
        rw [fixedNumber, if_neg]
        simp only [List.length_take]
        intro digits
        rw [Bool.and_eq_true, decide_eq_true_eq] at digits
        omega
      rw [failed, short]
      rfl

theorem steady_date? : Steady date? := by
  have dash : Steady (expect '-') := steady_expect rfl
  exact (steady_fixedNumber 4).bind (.pair fun year =>
    dash.bind ((steady_fixedNumber 2).bind (.pair fun month =>
      dash.bind ((steady_fixedNumber 2).bind (.pair fun day =>
        .ite (c := 1 ≤ month && month ≤ 12 && 1 ≤ day &&
          day ≤ daysInMonth year month) .keep .refuse)))))

theorem steady_hourMinute? : Steady hourMinute? := by
  have colon : Steady (expect ':') := steady_expect rfl
  exact (steady_fixedNumber 2).bind (.pair fun hour =>
    colon.bind ((steady_fixedNumber 2).bind (.pair fun minute =>
      .ite (c := hour ≤ 23 && minute ≤ 59) .keep .refuse)))

theorem steady_skippedDigits :
    Steady fun rest : List Char =>
      match rest.takeWhile isDecimalDigit with
      | [] => none
      | _ => some (rest.dropWhile isDecimalDigit) where
  suffix {text d} read := by
    split at read
    · cases read
    · cases read
      exact List.dropWhile_suffix _
  bounded {text d} read bounded := by
    split at read
    · cases read
    · cases read
      exact bounded.dropWhile plain_of_isDecimalDigit
  stays {text} bounded more := by
    have bounded : Bounded text := bounded
    obtain ⟨taken, dropped⟩ :=
      bounded.while_append plain_of_isDecimalDigit more
    change (match (text ++ more).takeWhile isDecimalDigit with
      | [] => none
      | _ => some ((text ++ more).dropWhile isDecimalDigit)) = _
    rw [taken, dropped]
    split <;> rfl

theorem steady_time? : Steady time? := by
  have colon : Steady (expect ':') := steady_expect rfl
  refine steady_hourMinute?.bind (colon.bind ((steady_fixedNumber 2).bind
    (.ofPair fun second => .ite ?_ .refuse)))
  -- what is left is the part of a second
  refine .byHead .keep rfl fun c => ?_
  by_cases point : c = '.'
  · subst point
    exact .inr ⟨rfl, _, steady_skippedDigits, fun _ => rfl⟩
  · refine .inl fun rest => ?_
    split
    · rename_i here
      exact absurd (List.cons.inj here).1 point
    · rfl

theorem steady_zone? : Steady zone? := by
  refine .byHead .keep rfl fun c => ?_
  by_cases universal : c = 'Z' ∨ c = 'z'
  · refine .inr ⟨by rcases universal with rfl | rfl <;> rfl, _, .keep, ?_⟩
    rcases universal with rfl | rfl <;> exact fun _ => rfl
  · by_cases sign : c = '+' ∨ c = '-'
    · refine .inr ⟨by rcases sign with rfl | rfl <;> rfl, _,
        steady_hourMinute?, ?_⟩
      rcases sign with rfl | rfl <;> exact fun _ => rfl
    · refine .inl fun rest => ?_
      rw [not_or] at universal sign
      rw [zone?]
      · simp [universal.1]
      · simp [universal.2]
      · simp [sign.1]
      · simp [sign.2]

theorem steady_timeBehindDate :
    Steady fun text : List Char =>
      match text with
      | c :: after =>
          if c = 'T' || c = 't' || c = ' ' then time? after else none
      | [] => none := by
  refine .byHead .refuse rfl fun c => ?_
  by_cases between : c = 'T' || c = 't' || c = ' '
  · refine .inr ⟨?_, _, steady_time?, fun rest => if_pos between⟩
    simp only [Bool.or_eq_true, decide_eq_true_eq] at between
    rcases between with (rfl | rfl) | rfl <;> rfl
  · exact .inl fun rest => if_neg between

theorem steady_datetime? : Steady datetime? := by
  have whole := steady_date?.orElse
    (steady_timeBehindDate.orElse steady_zone? .keep) steady_time?
  refine whole.congr fun text => ?_
  unfold datetime?
  obtain _ | rest := date? text
  · rfl
  · obtain _ | ⟨c, after⟩ := rest
    · rfl
    · dsimp only
      split
      · obtain _ | rest := time? after <;> rfl
      · rfl

theorem steady_numeric : Steady numeric := by
  have whole := steady_datetime?.orElse (.note .datetime)
    (steady_plainFloat.orElse (.pair fun value => .note (Value.float value))
      (steady_specialFloat.orElse (.pair fun value => .note (Value.float value))
        (steady_integer.turned Value.integer)))
  refine whole.congr fun text => ?_
  unfold numeric
  obtain _ | rest := datetime? text
  · obtain _ | found := plainFloat text
    · obtain _ | found := specialFloat text <;> rfl
    · rfl
  · rfl

end Tollgate.Toml
