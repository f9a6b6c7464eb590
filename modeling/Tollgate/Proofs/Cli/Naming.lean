import Tollgate.Proofs.Cli.Url

/-!
A name in a path, as it was given, among words. Of what is sent, only the name
can mean the name, and then there is nothing in it that means something else in
an address.
-/

namespace Tollgate

namespace Url

variable {c : Char} {name word segment rest : List Char}
  {front back : List (List Char)}

/-! Words and plain names -/

def isWord (word : List Char) : Bool :=
  !word.isEmpty && word.all Char.isLower

/-- Whether a character ends a path, divides it, or gets lost. -/
def isSpecial (c : Char) : Bool :=
  isSlash c || c == '?' || c == '#' || isOmitted c

/-- Whether a name stands for itself within a path. -/
def isPlain (name : List Char) : Bool :=
  !name.any isSpecial && !Percent.hasEscape name && name != ['.']
    && name != ['.', '.']

/-- Whether a name is still there at the end of an address. -/
def endsSolid (name : List Char) : Bool :=
  name.getLast?.any fun c => !isControlOrBlank c

theorem isPlain_iff : isPlain name ↔ (∀ c ∈ name, isSpecial c = false) ∧
    Percent.hasEscape name = false ∧ name ≠ ['.'] ∧ name ≠ ['.', '.'] := by
  simp only [isPlain, Bool.and_eq_true, Bool.not_eq_true', bne_iff_ne,
    List.any_eq_false, Bool.not_eq_true, and_assoc]

theorem isLower_facts (lower : c.isLower) :
    isSpecial c = false ∧ isControlOrBlank c = false ∧ isPathChar c ∧
      c ≠ '%' ∧ c ≠ '.' := by
  have ascii : c.toNat < 128 := by
    have bounds : 97 ≤ c.val ∧ c.val ≤ 122 := by
      simpa only [Bool.and_eq_true, decide_eq_true_eq] using
        (show (97 ≤ c.val && c.val ≤ 122) = true from lower)
    exact Nat.lt_of_le_of_lt (UInt32.le_iff_toNat_le.mp bounds.2) (by decide)
  revert lower
  refine Percent.of_ascii ?_ ascii
  decide

theorem isWord_iff : isWord word ↔ word ≠ [] ∧ ∀ c ∈ word, c.isLower := by
  simp [isWord]

theorem hasEscape_eq_false (none : ∀ c ∈ word, c ≠ '%') :
    Percent.hasEscape word = false := by
  induction word with
  | nil => rfl
  | cons c rest ih =>
      rw [List.forall_mem_cons] at none
      simp [Percent.hasEscape, none.1, ih none.2]

theorem isPlain_of_isWord (letters : isWord word) : isPlain word := by
  rw [isWord_iff] at letters
  have undotted : '.' ∉ word := fun dot =>
    (isLower_facts (letters.2 '.' dot)).2.2.2.2 rfl
  rw [isPlain_iff]
  refine ⟨?_, ?_, ?_, ?_⟩
  · exact fun c member => (isLower_facts (letters.2 c member)).1
  · exact hasEscape_eq_false fun c member =>
      (isLower_facts (letters.2 c member)).2.2.2.1
  · rintro rfl
    exact undotted List.mem_cons_self
  · rintro rfl
    exact undotted List.mem_cons_self

theorem hasEscape_tail (literal : Percent.hasEscape (c :: rest) = false) :
    Percent.hasEscape rest = false := by
  rw [Percent.hasEscape, Bool.or_eq_false_iff] at literal
  exact literal.2

theorem plainDots_eq_self (literal : Percent.hasEscape name = false) :
    plainDots name = name := by
  fun_induction plainDots name with
  | case1 c rest letter ih =>
      rw [Bool.or_eq_true, decide_eq_true_eq, decide_eq_true_eq] at letter
      rcases letter with rfl | rfl <;> cases literal
  | case2 c rest other ih => rw [ih (hasEscape_tail (hasEscape_tail literal))]
  | case3 c rest other ih => rw [ih (hasEscape_tail literal)]
  | case4 => rfl

theorem isProper_of_isPlain (plain : isPlain name) : isProper name := by
  obtain ⟨-, literal, single, double⟩ := isPlain_iff.mp plain
  simp [isProper, isDot, isDoubleDot, plainDots_eq_self literal, single, double]

/-! Paths -/

def under (front : List (List Char)) (rest : List Char) : List Char :=
  front.foldr (fun word rest => word ++ '/' :: rest) rest

def above (name : List Char) (back : List (List Char)) : List Char :=
  name ++ back.flatMap ('/' :: ·)

def beforeQuery (path : List Char) : List Char :=
  (path.takeWhile (· != '#')).takeWhile (· != '?')

/-- What is left of a name in a cleaned address. -/
def held (name : List Char) (back : List (List Char)) : List Char :=
  if back.isEmpty then tidy name else name.filter (!isOmitted ·)

theorem under_append (front : List (List Char)) (first second : List Char) :
    under front (first ++ second) = under front first ++ second := by
  induction front with
  | nil => rfl
  | cons word front ih =>
      change word ++ '/' :: under front (first ++ second) = _
      rw [ih]
      exact (List.append_assoc word ('/' :: under front first) second).symm

theorem above_nil (name : List Char) : above name [] = name := by
  rw [above, List.flatMap_nil, List.append_nil]

theorem isLower_of_mem (letters : isWord word) (member : c ∈ word) :
    c.isLower :=
  (isWord_iff.mp letters).2 c member

theorem not_isSpecial_iff : isSpecial c = false ↔
    isSlash c = false ∧ (c != '?' && c != '#') ∧ !isOmitted c := by
  simp only [isSpecial, Bool.or_eq_false_iff, beq_eq_false_iff_ne,
    Bool.and_eq_true, bne_iff_ne, Bool.not_eq_true', and_assoc]

theorem ordinary_of_isLower (lower : c.isLower) :
    isSlash c = false ∧ (c != '?' && c != '#') ∧ !isOmitted c :=
  not_isSpecial_iff.mp (isLower_facts lower).1

theorem not_special_of_mem (letters : isWord word) (member : c ∈ word) :
    isSlash c = false ∧ (c != '?' && c != '#') ∧ !isOmitted c :=
  ordinary_of_isLower (isLower_of_mem letters member)

theorem tidy_word (letters : isWord word) (rest : List Char) :
    tidy (word ++ '/' :: rest) = word ++ '/' :: tidy rest := by
  have kept : word.filter (!isOmitted ·) = word :=
    List.filter_eq_self.mpr fun c member =>
      (not_special_of_mem letters member).2.2
  have slash : isControlOrBlank '/' = false := by decide
  rw [tidy, rdropWhile_append slash, List.filter_append, kept, List.filter_cons,
    if_pos (by decide), tidy]

theorem beforeQuery_eq (path : List Char) :
    beforeQuery path = path.takeWhile fun c => c != '?' && c != '#' := by
  rw [beforeQuery, List.takeWhile_takeWhile]
  congr 1
  funext c
  rw [Bool.decide_and, Bool.decide_coe, Bool.decide_coe]

theorem beforeQuery_word (letters : isWord word) (rest : List Char) :
    beforeQuery (word ++ '/' :: rest) = word ++ '/' :: beforeQuery rest := by
  have kept : ∀ c ∈ word, c != '?' && c != '#' :=
    fun c member => (not_special_of_mem letters member).2.1
  rw [beforeQuery_eq, beforeQuery_eq, List.takeWhile_append_of_pos kept]
  rfl

theorem splitPath_word (letters : isWord word) : splitPath word = [word] :=
  splitPath_eq_singleton fun _ member => (not_special_of_mem letters member).1

theorem tidy_under (words : ∀ w ∈ front, isWord w) (rest : List Char) :
    tidy (under front rest) = under front (tidy rest) := by
  induction front with
  | nil => rfl
  | cons word front ih =>
      rw [List.forall_mem_cons] at words
      exact (tidy_word words.1 _).trans
        (congrArg (word ++ '/' :: ·) (ih words.2))

theorem beforeQuery_under (words : ∀ w ∈ front, isWord w) (rest : List Char) :
    beforeQuery (under front rest) = under front (beforeQuery rest) := by
  induction front with
  | nil => rfl
  | cons word front ih =>
      rw [List.forall_mem_cons] at words
      exact (beforeQuery_word words.1 _).trans
        (congrArg (word ++ '/' :: ·) (ih words.2))

theorem splitPath_under (words : ∀ w ∈ front, isWord w) (rest : List Char) :
    splitPath (under front rest) = front ++ splitPath rest := by
  induction front with
  | nil => rfl
  | cons word front ih =>
      rw [List.forall_mem_cons] at words
      have first : splitPath (under (word :: front) rest) =
          splitPath word ++ splitPath (under front rest) :=
        splitPath_append rfl word _
      rw [first, splitPath_word words.1, ih words.2]
      rfl

theorem splitPath_above (words : ∀ w ∈ back, isWord w) (name : List Char) :
    splitPath (above name back) = splitPath name ++ back := by
  induction back generalizing name with
  | nil => rw [above_nil, List.append_nil]
  | cons word back ih =>
      rw [List.forall_mem_cons] at words
      have first : splitPath (above name (word :: back)) =
          splitPath name ++ splitPath (above word back) :=
        splitPath_append rfl name _
      rw [first, ih words.2, splitPath_word words.1]
      rfl

theorem mem_tail (words : ∀ w ∈ back, isWord w)
    (member : c ∈ back.flatMap ('/' :: ·)) : c = '/' ∨ c.isLower := by
  obtain ⟨word, inside, found⟩ := List.mem_flatMap.mp member
  rcases List.mem_cons.mp found with slash | found
  · exact .inl slash
  · exact .inr (isLower_of_mem (words word inside) found)

theorem tidy_above (words : ∀ w ∈ back, isWord w) (name : List Char) :
    tidy (above name back) = above (held name back) back := by
  cases back with
  | nil => rw [above_nil, above_nil, held, List.isEmpty_nil, if_pos rfl]
  | cons word others =>
      have some : (word :: others).flatMap ('/' :: ·) ≠ [] := nofun
      have whole : (above name (word :: others)).rdropWhile isControlOrBlank =
          above name (word :: others) := by
        rw [rdropWhile_eq_self_iff]
        intro c last
        rw [above, List.getLast?_append_of_ne_nil _ some] at last
        rcases mem_tail words (List.mem_of_getLast? last) with rfl | lower
        · decide
        · exact (isLower_facts lower).2.1
      have kept : ((word :: others).flatMap ('/' :: ·)).filter (!isOmitted ·) =
          (word :: others).flatMap ('/' :: ·) := by
        rw [List.filter_eq_self]
        intro c member
        rcases mem_tail words member with rfl | lower
        · decide
        · exact (ordinary_of_isLower lower).2.2
      rw [tidy, whole, above, List.filter_append, kept]
      rfl

theorem beforeQuery_above (words : ∀ w ∈ back, isWord w) (name : List Char) :
    beforeQuery (above name back) =
      if beforeQuery name = name then above name back
      else beforeQuery name := by
  have kept : (back.flatMap ('/' :: ·)).takeWhile
      (fun c => c != '?' && c != '#') = back.flatMap ('/' :: ·) := by
    rw [List.takeWhile_eq_self_iff]
    intro c member
    rcases mem_tail words member with rfl | lower
    · decide
    · exact (ordinary_of_isLower lower).2.1
  have whole : (beforeQuery name).length = name.length ↔
      beforeQuery name = name := by
    rw [beforeQuery_eq]
    exact ⟨(List.takeWhile_sublist _).eq_of_length, congrArg List.length⟩
  rw [beforeQuery_eq, above, List.takeWhile_append, kept, ← beforeQuery_eq]
  exact if_congr whole rfl rfl

theorem beforeQuery_eq_self_iff :
    beforeQuery name = name ↔ ∀ c ∈ name, c != '?' && c != '#' := by
  rw [beforeQuery_eq, List.takeWhile_eq_self_iff]

theorem held_sublist (name : List Char) (back : List (List Char)) :
    (held name back).Sublist name := by
  unfold held
  split
  · exact List.filter_sublist.trans (List.rdropWhile_prefix _ _).sublist
  · exact List.filter_sublist

theorem held_eq_self_iff : held name back = name ↔
    (∀ c ∈ name, !isOmitted c) ∧
      (back = [] → ∀ c ∈ name.getLast?, isControlOrBlank c = false) := by
  unfold held
  by_cases last : back = []
  · rw [if_pos (by rw [last]; rfl), ← rdropWhile_eq_self_iff]
    constructor
    · intro same
      have whole : name.rdropWhile isControlOrBlank = name := by
        apply (List.rdropWhile_prefix _ _).sublist.antisymm
        nth_rewrite 1 [← same]
        exact List.filter_sublist
      rw [tidy, whole, List.filter_eq_self] at same
      exact ⟨same, fun _ => whole⟩
    · rintro ⟨kept, whole⟩
      rw [tidy, whole last, List.filter_eq_self]
      exact kept
  · rw [if_neg (by simpa using last), List.filter_eq_self]
    simp [last]

theorem endsSolid_iff : endsSolid name ↔
    name ≠ [] ∧ ∀ c ∈ name.getLast?, isControlOrBlank c = false := by
  unfold endsSolid
  cases last : name.getLast? with
  | none => simp [List.getLast?_eq_none_iff.mp last]
  | some c =>
      have occupied : name ≠ [] := by
        rintro rfl
        cases last
      simp [occupied]

theorem endsSolid_of_isWord (letters : isWord name) : endsSolid name := by
  rw [endsSolid_iff]
  refine ⟨(isWord_iff.mp letters).1, ?_⟩
  intro c last
  exact (isLower_facts
    (isLower_of_mem letters (List.mem_of_getLast? last))).2.1

/-! What arrives of a name -/

/-- Every segment that is sent is empty, or a word, or part of the name. -/
theorem mem_sent (frontWords : ∀ w ∈ front, isWord w)
    (backWords : ∀ w ∈ back, isWord w)
    (sent : segment ∈
      sentSegments (beforeQuery (tidy (under front (above name back))))) :
    segment = [] ∨ isWord segment ∨
      segment ∈ splitPath (beforeQuery (held name back)) ∧
        isProper segment := by
  rw [tidy_under frontWords, tidy_above backWords,
    beforeQuery_under frontWords, beforeQuery_above backWords] at sent
  rcases mem_sentSegments sent with empty | ⟨part, proper⟩
  · exact .inl empty
  · right
    rw [splitPath_under frontWords, List.mem_append] at part
    rcases part with word | part
    · exact .inl (frontWords segment word)
    · split at part
      · rename_i whole
        rw [splitPath_above backWords, List.mem_append] at part
        rcases part with part | word
        · rw [whole]
          exact .inr ⟨part, proper⟩
        · exact .inl (backWords segment word)
      · exact .inr ⟨part, proper⟩

/-- A segment that means the name is the name, and the name is plain. -/
theorem eq_of_means (frontWords : ∀ w ∈ front, isWord w)
    (backWords : ∀ w ∈ back, isWord w)
    (sent : segment ∈
      sentSegments (beforeQuery (tidy (under front (above name back)))))
    (means : Percent.decode (utf8 segment) = utf8 name) :
    segment = name ∧ isPlain name ∧
      (back = [] → name ≠ [] → endsSolid name) := by
  rcases mem_sent frontWords backWords sent with rfl | word | ⟨part, proper⟩
  · have empty : name = [] := utf8_inj.mp means.symm
    subst empty
    exact ⟨rfl, rfl, fun _ occupied => absurd rfl occupied⟩
  · have plain := isPlain_of_isWord word
    rw [Percent.decode_utf8_eq_self_iff.mpr (isPlain_iff.mp plain).2.1,
      utf8_inj] at means
    subst means
    exact ⟨rfl, plain, fun _ _ => endsSolid_of_isWord word⟩
  · obtain ⟨sub, undivided⟩ := mem_splitPath part
    have cut : (beforeQuery (held name back)).Sublist (held name back) := by
      rw [beforeQuery_eq]
      exact List.takeWhile_sublist _
    -- It means no more bytes than it has, so nothing of the name is missing.
    have same : segment = name := by
      apply eq_of_sublist ((sub.trans cut).trans (held_sublist name back))
      rw [← means]
      exact Percent.length_decode_le _
    subst same
    have kept : held segment back = segment :=
      (held_sublist segment back).antisymm (sub.trans cut)
    rw [kept] at sub cut
    obtain ⟨unomitted, solid⟩ := held_eq_self_iff.mp kept
    have unended := beforeQuery_eq_self_iff.mp (cut.antisymm sub)
    refine ⟨rfl, isPlain_iff.mpr ⟨?_, ?_, ?_, ?_⟩, ?_⟩
    · intro c member
      exact not_isSpecial_iff.mpr
        ⟨undivided c member, unended c member, unomitted c member⟩
    · exact Percent.decode_utf8_eq_self_iff.mp means
    · rintro rfl
      cases proper
    · rintro rfl
      cases proper
    · exact fun last occupied => endsSolid_iff.mpr ⟨occupied, solid last⟩

theorem sent_of_isPlain (frontWords : ∀ w ∈ front, isWord w)
    (backWords : ∀ w ∈ back, isWord w) (plain : isPlain name)
    (solid : back = [] → endsSolid name) :
    tidy (under front (above name back)) = under front (above name back) ∧
    beforeQuery (under front (above name back)) =
      under front (above name back) ∧
    sentSegments (under front (above name back)) = front ++ name :: back := by
  have ordinary (c : Char) (member : c ∈ name) :=
    not_isSpecial_iff.mp ((isPlain_iff.mp plain).1 c member)
  have kept : held name back = name :=
    held_eq_self_iff.mpr ⟨fun c member => (ordinary c member).2.2,
      fun last => (endsSolid_iff.mp (solid last)).2⟩
  have whole : beforeQuery name = name :=
    beforeQuery_eq_self_iff.mpr fun c member => (ordinary c member).2.1
  have alone : splitPath name = [name] :=
    splitPath_eq_singleton fun c member => (ordinary c member).1
  refine ⟨?_, ?_, ?_⟩
  · rw [tidy_under frontWords, tidy_above backWords, kept]
  · rw [beforeQuery_under frontWords, beforeQuery_above backWords,
      if_pos whole]
  · rw [sentSegments, splitPath_under frontWords, splitPath_above backWords,
      alone, List.singleton_append]
    apply resolveDots_proper
    intro s member
    rw [List.mem_append, List.mem_cons] at member
    apply isProper_of_isPlain
    rcases member with word | rfl | word
    · exact isPlain_of_isWord (frontWords s word)
    · exact plain
    · exact isPlain_of_isWord (backWords s word)

theorem targetOf_slash (path : List Char) :
    ∃ query, (∀ c ∈ query.head?, Target.endsPath c) ∧
      (beforeQuery path = path → query = []) ∧
      targetOf ('/' :: path) =
        String.ofList (written (sentSegments (beforeQuery path)) ++ query) := by
  have front : ('/' :: path).takeWhile (· != '#') =
      '/' :: path.takeWhile (· != '#') := rfl
  have more : ('/' :: path.takeWhile (· != '#')).takeWhile (· != '?') =
      '/' :: beforeQuery path := rfl
  have back : ('/' :: path.takeWhile (· != '#')).dropWhile (· != '?') =
      (path.takeWhile (· != '#')).dropWhile (· != '?') := rfl
  unfold targetOf
  simp only [front, more, back, normalizePath_slash]
  refine ⟨_, ?_, ?_, rfl⟩
  · intro c head
    split at head
    · cases head
      rfl
    · cases head
  · intro whole
    have none : (path.takeWhile (· != '#')).dropWhile (· != '?') = [] := by
      rw [List.dropWhile_eq_nil_iff]
      intro c member
      have kept := beforeQuery_eq_self_iff.mp whole c
        ((List.takeWhile_sublist _).subset member)
      exact (Bool.and_eq_true_iff.mp kept).1
    rw [none]

end Url

end Tollgate
