/-!
Stable sorting by insertion. Main statements: sorting permutes the list, the
result is in order when the relation is total and transitive, and elements that
it has equal keep their order.
-/

namespace Tollgate

def insertSorted (le : α → α → Bool) (x : α) : List α → List α
  | [] => [x]
  | y :: rest => if le x y then x :: y :: rest else y :: insertSorted le x rest

/-- The list in ascending order; equal elements keep their order. -/
def sortBy (le : α → α → Bool) : List α → List α
  | [] => []
  | x :: rest => insertSorted le x (sortBy le rest)

theorem insertSorted_perm (le : α → α → Bool) (x : α) (l : List α) :
    (insertSorted le x l).Perm (x :: l) := by
  induction l with
  | nil => exact .refl _
  | cons y rest ih =>
      simp only [insertSorted]
      split
      · exact .refl _
      · exact (ih.cons y).trans (.swap x y rest)

theorem sortBy_perm (le : α → α → Bool) (l : List α) :
    (sortBy le l).Perm l := by
  induction l with
  | nil => exact .refl _
  | cons x rest ih => exact (insertSorted_perm le x _).trans (ih.cons x)

theorem filter_insertSorted {le : α → α → Bool} {test : α → Bool}
    (equal : ∀ a b, test a → test b → le a b) (x : α) (l : List α) :
    (insertSorted le x l).filter test = (x :: l).filter test := by
  induction l with
  | nil => rfl
  | cons y rest ih =>
      simp only [insertSorted]
      split
      · rfl
      · rename_i later
        have apart : ¬ (test x ∧ test y) := fun both =>
          later (equal x y both.1 both.2)
        rw [List.filter_cons, ih]
        cases first : test x with
        | false => simp [List.filter_cons, first]
        | true =>
            have other : test y = false :=
              Bool.eq_false_iff.mpr fun second => apart ⟨first, second⟩
            simp [first, other]

theorem filter_sortBy {le : α → α → Bool} {test : α → Bool}
    (equal : ∀ a b, test a → test b → le a b) (l : List α) :
    (sortBy le l).filter test = l.filter test := by
  induction l with
  | nil => rfl
  | cons x rest ih =>
      rw [sortBy, filter_insertSorted equal, List.filter_cons, ih,
        ← List.filter_cons]

theorem insertSorted_pairwise {le : α → α → Bool}
    (total : ∀ a b, le a b || le b a)
    (trans : ∀ a b c, le a b → le b c → le a c)
    (x : α) {l : List α} (h : l.Pairwise (le · ·)) :
    (insertSorted le x l).Pairwise (le · ·) := by
  induction l with
  | nil => simp [insertSorted]
  | cons y rest ih =>
      rw [List.pairwise_cons] at h
      simp only [insertSorted]
      split
      · rename_i first
        refine List.pairwise_cons.mpr ⟨fun z hz => ?_, List.pairwise_cons.mpr h⟩
        rcases List.mem_cons.mp hz with rfl | hz
        · exact first
        · exact trans _ _ _ first (h.1 z hz)
      · rename_i later
        refine List.pairwise_cons.mpr ⟨fun z hz => ?_, ih h.2⟩
        rcases List.mem_cons.mp ((insertSorted_perm le x rest).mem_iff.mp hz)
          with rfl | hz
        · simpa [later] using total z y
        · exact h.1 z hz

theorem sortBy_pairwise {le : α → α → Bool}
    (total : ∀ a b, le a b || le b a)
    (trans : ∀ a b c, le a b → le b c → le a c) (l : List α) :
    (sortBy le l).Pairwise (le · ·) := by
  induction l with
  | nil => exact .nil
  | cons x rest ih => exact insertSorted_pairwise total trans x ih

end Tollgate
