/-!
Texts cut at a character. Main statement: joining the parts gives the text back.
-/

namespace Tollgate

def splitAtChar (separator : Char) : List Char → List (List Char)
  | [] => [[]]
  | c :: rest =>
      if c = separator then [] :: splitAtChar separator rest
      else match splitAtChar separator rest with
        | [] => [[c]]
        | first :: others => (c :: first) :: others

def joinWithChar (separator : Char) : List (List Char) → List Char
  | [] => []
  | [part] => part
  | part :: rest => part ++ separator :: joinWithChar separator rest

theorem splitAtChar_ne_nil (separator : Char) (text : List Char) :
    splitAtChar separator text ≠ [] := by
  cases text with
  | nil => simp [splitAtChar]
  | cons c rest =>
      simp only [splitAtChar]
      split
      · simp
      · split <;> simp

theorem joinWithChar_splitAtChar (separator : Char) (text : List Char) :
    joinWithChar separator (splitAtChar separator text) = text := by
  induction text with
  | nil => rfl
  | cons c rest ih =>
      obtain ⟨first, others, parts⟩ :=
        List.exists_cons_of_ne_nil (splitAtChar_ne_nil separator rest)
      rw [parts] at ih
      by_cases h : c = separator
      · simp [splitAtChar, h, parts, joinWithChar, ih]
      · cases others with
        | nil => simp_all [splitAtChar, joinWithChar]
        | cons second others => simp_all [splitAtChar, joinWithChar]

theorem splitAtChar_eq_singleton {separator : Char} {text : List Char}
    (h : separator ∉ text) : splitAtChar separator text = [text] := by
  induction text with
  | nil => rfl
  | cons c rest ih =>
      simp only [List.mem_cons, not_or] at h
      simp [splitAtChar, Ne.symm h.1, ih h.2]

theorem splitAtChar_append {separator : Char} {text : List Char}
    (h : separator ∉ text) (rest : List Char) :
    splitAtChar separator (text ++ separator :: rest) =
      text :: splitAtChar separator rest := by
  induction text with
  | nil => simp [splitAtChar]
  | cons c text ih =>
      simp only [List.mem_cons, not_or] at h
      simp [splitAtChar, Ne.symm h.1, ih h.2]

end Tollgate
