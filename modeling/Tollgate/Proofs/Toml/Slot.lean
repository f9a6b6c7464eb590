import Tollgate.Proofs.Toml.Within

/-!
Changes at the end of a path through a document. The way there goes through
slots: tables that are entered, and put back when what is inside has changed.
-/

namespace Tollgate.Toml.Entries

/-- A table that is entered: how it came about, what is in it, what its value is
when that changes, and which step leads into it besides its key. -/
structure Slot where
  origin : Origin
  inner : Entries
  rebuild : Entries → Value
  way : List Step

def enter? (fresh : Origin) (entries : Entries) (key : String) : Option Slot :=
  match entries.find? key with
  | none => some ⟨fresh, [], .table fresh, []⟩
  | some (.table .inline _) => none
  | some (.table origin inner) =>
      if fresh = .dotted && origin = .header then none
      else some ⟨origin, inner, .table origin, []⟩
  | some (.tables items) =>
      match items.reverse with
      | [] => none
      | last :: earlier =>
          some ⟨.header, last, fun last => .tables (last :: earlier).reverse,
            [.item earlier.length]⟩
  | some _ => none

variable {β γ : Type} {fresh origin : Origin} {entries : Entries} {key : String}

theorem alterAt_cons (change : Origin → Entries → Option (β × Entries))
    (rest : List String) :
    alterAt fresh change (key :: rest) origin entries =
      (enter? fresh entries key).bind fun slot =>
        (alterAt fresh change rest slot.origin slot.inner).map fun found =>
          (found.1, entries.set key (slot.rebuild found.2)) := by
  rw [alterAt, enter?]
  rcases here : entries.find? key with _ | v
  · simp only [set_of_none here]
    rfl
  · simp only [set_of_some here]
    cases v with
    | table origin inner =>
        cases origin with
        | inline => rfl
        | _ =>
            dsimp only
            split <;> rfl
    | tables items =>
        dsimp only
        rcases items.reverse with _ | ⟨last, earlier⟩ <;> rfl
    | _ => rfl

theorem enter?_of_table {inner : Entries}
    (here : entries.find? key = some (.table origin inner))
    (noBraces : origin ≠ .inline) (allowed : ¬ (fresh = .dotted ∧ origin = .header)) :
    enter? fresh entries key = some ⟨origin, inner, .table origin, []⟩ := by
  unfold enter?
  rw [here]
  cases origin with
  | inline => exact absurd rfl noBraces
  | header => exact if_neg (by simpa using allowed)
  | path => exact if_neg (by simp)
  | dotted => exact if_neg (by simp)

theorem enter?_cases {slot : Slot} (enters : enter? fresh entries key = some slot) :
    (entries.find? key = none ∧ slot = ⟨fresh, [], .table fresh, []⟩) ∨
      (∃ origin inner, entries.find? key = some (.table origin inner) ∧
        origin ≠ .inline ∧ ¬ (fresh = .dotted ∧ origin = .header) ∧
        slot = ⟨origin, inner, .table origin, []⟩) ∨
      (∃ earlier last, entries.find? key = some (.tables (earlier ++ [last])) ∧
        slot = ⟨.header, last, fun last => .tables (earlier ++ [last]),
          [.item earlier.length]⟩) := by
  unfold enter? at enters
  split at enters
  · cases enters
    exact .inl ⟨‹_›, rfl⟩
  · cases enters
  · rename_i origin inner noBraces here
    split at enters
    · cases enters
    · rename_i closed
      cases enters
      simp only [Bool.and_eq_true, decide_eq_true_eq] at closed
      refine .inr (.inl ⟨origin, inner, here, ?_, closed, rfl⟩)
      rintro rfl
      exact noBraces rfl
  · rename_i items here
    split at enters
    · cases enters
    · rename_i last earlier reversed
      cases enters
      have whole : items = earlier.reverse ++ [last] := by
        rw [← List.reverse_cons, ← reversed, List.reverse_reverse]
      refine .inr (.inr ⟨earlier.reverse, last, whole ▸ here, ?_⟩)
      simp only [List.reverse_cons, List.length_reverse]
  · cases enters

namespace Slot

variable {slot : Slot} (enters : enter? fresh entries key = some slot)
include enters

theorem old_eq {old : Value} (found : entries.find? key = some old) :
    old = slot.rebuild slot.inner := by
  obtain ⟨absent, rfl⟩ | ⟨_, _, here, _, _, rfl⟩ | ⟨_, _, here, rfl⟩ :=
    enter?_cases enters
  · rw [absent] at found
    cases found
  · exact Option.some.inj (found.symm.trans here)
  · exact Option.some.inj (found.symm.trans here)

theorem rebuild_within {place : Place} {part whole : Entries}
    (within : Entries.Within place part whole) :
    Value.Within (place.over slot.way) (slot.rebuild part)
      (slot.rebuild whole) := by
  obtain ⟨_, rfl⟩ | ⟨_, _, _, _, _, rfl⟩ | ⟨earlier, _, _, rfl⟩ :=
    enter?_cases enters
  · rw [Place.over_nil]
    exact Value.within_table.mpr within
  · rw [Place.over_nil]
    exact Value.within_table.mpr within
  · exact tables_within earlier within

theorem enter?_again (outside : fresh ≠ .inline) (inner : Entries) :
    enter? fresh (entries.set key (slot.rebuild inner)) key =
      some { slot with inner } := by
  have here : (entries.set key (slot.rebuild inner)).find? key =
      some (slot.rebuild inner) := by
    rw [find?_set, if_pos rfl]
  obtain ⟨_, rfl⟩ | ⟨origin, _, _, noBraces, noHeader, rfl⟩ |
    ⟨earlier, _, _, rfl⟩ := enter?_cases enters
  · refine enter?_of_table here outside ?_
    rintro ⟨rfl, ⟨⟩⟩
  · exact enter?_of_table here noBraces noHeader
  · unfold enter?
    rw [here]
    simp

end Slot

/-! Changes -/

section
variable {change : Origin → Entries → Option (β × Entries)}
  {after : Origin → Entries → Option (γ × Entries)} {path : List String}

/-- Who only adds at the end of a path adds to the whole. -/
theorem within_alterAt {found : β} {result : Entries}
    (adds : ∀ origin inner b inner', change origin inner = some (b, inner') →
      Entries.Within none inner inner')
    (changed : alterAt fresh change path origin entries = some (found, result)) :
    Entries.Within none entries result := by
  induction path generalizing origin entries result with
  | nil => exact adds origin entries found result changed
  | cons key rest ih =>
      rw [alterAt_cons] at changed
      obtain ⟨slot, enters, changed⟩ := Option.bind_eq_some_iff.mp changed
      obtain ⟨⟨b, inner⟩, inside, same⟩ := Option.map_eq_some_iff.mp changed
      cases same
      refine within_set fun old here => ?_
      rw [slot.old_eq enters here]
      exact slot.rebuild_within enters (ih inside)

/-- When one change gives a part of what another gives, then so it does at the
end of a path; the place where something may differ lies behind that path. -/
theorem alterAt_within_alterAt {place : Place}
    (within : ∀ origin inner, ∃ way, ∀ b part c whole,
      change origin inner = some (b, part) → after origin inner = some (c, whole) →
        Entries.Within (place.over way) part whole)
    (fresh : Origin) (path : List String) (origin : Origin) (entries : Entries) :
    ∃ way, ∀ b part c whole,
      alterAt fresh change path origin entries = some (b, part) →
      alterAt fresh after path origin entries = some (c, whole) →
        Entries.Within (place.over way) part whole := by
  induction path generalizing origin entries with
  | nil => exact within origin entries
  | cons key rest ih =>
      simp only [alterAt_cons]
      rcases enters : enter? fresh entries key with _ | slot
      · exact ⟨[], fun b part c whole here => nomatch here⟩
      · obtain ⟨way, ih⟩ := ih slot.origin slot.inner
        refine ⟨.key key :: (slot.way ++ way), fun b part c whole here there => ?_⟩
        rw [Option.bind_some] at here there
        obtain ⟨⟨b, inner⟩, smaller, same⟩ := Option.map_eq_some_iff.mp here
        cases same
        obtain ⟨⟨c, inner'⟩, larger, same⟩ := Option.map_eq_some_iff.mp there
        cases same
        have inside := slot.rebuild_within enters (ih _ _ _ _ smaller larger)
        rw [Place.over_over] at inside
        have whole := set_within_set entries key inside
        rwa [Place.over_over] at whole

theorem alterAt_isSome
    (succeeds : ∀ origin inner, (change origin inner).isSome →
      (after origin inner).isSome)
    (changed : (alterAt fresh change path origin entries).isSome) :
    (alterAt fresh after path origin entries).isSome := by
  induction path generalizing origin entries with
  | nil => exact succeeds origin entries changed
  | cons key rest ih =>
      rw [alterAt_cons] at changed ⊢
      rcases enters : enter? fresh entries key with _ | slot
      · rw [enters] at changed
        cases changed
      · rw [enters, Option.bind_some, Option.isSome_map] at changed
        rw [Option.bind_some, Option.isSome_map]
        exact ih changed

theorem within_alterAt_alterAt {b : β} {c : γ} {between result : Entries}
    (outside : fresh ≠ .inline)
    (adds : ∀ origin inner between inner' c,
      change origin inner = some (b, between) →
      after origin between = some (c, inner') → Entries.Within none inner inner')
    (first : alterAt fresh change path origin entries = some (b, between))
    (second : alterAt fresh after path origin between = some (c, result)) :
    Entries.Within none entries result := by
  induction path generalizing origin entries between result with
  | nil => exact adds origin entries between result c first second
  | cons key rest ih =>
      rw [alterAt_cons] at first
      obtain ⟨slot, enters, first⟩ := Option.bind_eq_some_iff.mp first
      obtain ⟨⟨b, inner⟩, before, same⟩ := Option.map_eq_some_iff.mp first
      cases same
      rw [alterAt_cons, slot.enter?_again enters outside, Option.bind_some]
        at second
      obtain ⟨⟨c, inner'⟩, later, same⟩ := Option.map_eq_some_iff.mp second
      cases same
      have inside := slot.rebuild_within enters (ih before later)
      intro other old here
      rw [find?_set, find?_set]
      by_cases same : key = other
      · subst same
        rw [slot.old_eq enters here]
        exact ⟨_, if_pos rfl, inside⟩
      · rw [if_neg same, if_neg same]
        exact ⟨old, here, .same⟩

end

end Tollgate.Toml.Entries
