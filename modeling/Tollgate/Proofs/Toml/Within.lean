import Tollgate.Proofs.Toml.Torn

/-!
Documents of which one is a part of the other: what the part has stands in the
same places of the whole, but for one place at most, where a value is torn.
-/

namespace Tollgate.Toml

/-! Places in a document -/

/-- A step into a table, or into one of the tables in double brackets. -/
inductive Step where
  | key (name : String)
  | item (position : Nat)
deriving DecidableEq

/-- The way to a value in a document, the text that was there of the value, and
what was missing behind that. -/
structure Spot where
  way : List Step
  text : List Char
  more : List Char

abbrev Place := Option Spot

/-- The place, as seen from one step further inside. -/
def Place.under (place : Place) (step : Step) : Place :=
  match place with
  | some ⟨first :: rest, text, more⟩ =>
      if first = step then some ⟨rest, text, more⟩ else none
  | _ => none

@[simp] theorem Place.under_self (step : Step) (rest : List Step)
    (text more : List Char) :
    under (some ⟨step :: rest, text, more⟩) step = some ⟨rest, text, more⟩ :=
  if_pos rfl

/-- The place, as seen from outside, where some steps lead to it. -/
def Place.over (place : Place) (way : List Step) : Place :=
  place.map fun spot => { spot with way := way ++ spot.way }

@[simp] theorem Place.over_nil (place : Place) : place.over [] = place := by
  cases place <;> rfl

theorem Place.over_over (place : Place) (inner outer : List Step) :
    (place.over inner).over outer = place.over (outer ++ inner) := by
  cases place with
  | none => rfl
  | some spot =>
      exact congrArg (fun way => some { spot with way })
        (List.append_assoc outer inner spot.way).symm

theorem Place.under_over (place : Place) (step : Step) :
    (place.over [step]).under step = place := by
  cases place with
  | none => rfl
  | some spot => exact under_self step spot.way spot.text spot.more

/-! Parts -/

/-- A value that is a part of another. In the place, if there is one, it may be
torn; of a table any lines may be missing, and of tables in double brackets the
last ones. -/
inductive Value.Within : Place → Value → Value → Prop where
  | same {place : Place} {v : Value} : Within place v v
  | torn {v w : Value} {text more : List Char} (torn : Torn text more v w) :
      Within (some ⟨[], text, more⟩) v w
  | table {place : Place} {origin origin' : Origin} {part whole : Entries}
      (there : ∀ key, (part.find? key).isSome → (whole.find? key).isSome)
      (entries : ∀ key v w, part.find? key = some v → whole.find? key = some w →
        Within (place.under (.key key)) v w) :
      Within place (.table origin part) (.table origin' whole)
  | tables {place : Place} {part whole : List Entries}
      (length : part.length ≤ whole.length)
      (items : ∀ position entries entries', part[position]? = some entries →
        whole[position]? = some entries' →
          Within (place.under (.item position)) (.table .header entries)
            (.table .header entries')) :
      Within place (.tables part) (.tables whole)

def Entries.Within (place : Place) (part whole : Entries) : Prop :=
  ∀ key v, part.find? key = some v →
    ∃ w, whole.find? key = some w ∧ Value.Within (place.under (.key key)) v w

def Value.isLeaf : Value → Bool
  | .array _ | .table _ _ | .tables _ => false
  | _ => true

theorem numeric_cases {text rest : List Char} {v : Value}
    (number : numeric text = some (v, rest)) :
    (∃ n, v = .integer n) ∨ (∃ x, v = .float x) ∨ v = .datetime := by
  unfold numeric at number
  split at number
  · cases number
    exact .inr (.inr rfl)
  · split at number
    · cases number
      exact .inr (.inl ⟨_, rfl⟩)
    · split at number
      · cases number
        exact .inr (.inl ⟨_, rfl⟩)
      · obtain ⟨_, _, same⟩ := Option.map_eq_some_iff.mp number
        cases same
        exact .inl ⟨_, rfl⟩

theorem isLeaf_of_numeric {text rest : List Char} {v : Value}
    (number : numeric text = some (v, rest)) : v.isLeaf := by
  obtain ⟨_, rfl⟩ | ⟨_, rfl⟩ | rfl := numeric_cases number <;> rfl

theorem Torn.isLeaf {text more : List Char} {v w : Value}
    (torn : Torn text more v w) : v.isLeaf ∧ w.isLeaf := by
  cases torn with
  | number beginning whole =>
      exact ⟨isLeaf_of_numeric beginning, isLeaf_of_numeric whole⟩
  | string => exact ⟨rfl, rfl⟩

section
variable {place : Place} {part whole : Entries}

theorem Entries.Within.refl : Entries.Within place part part :=
  fun _ v found => ⟨v, found, .same⟩

theorem Value.within_table {origin origin' : Origin} :
    Value.Within place (.table origin part) (.table origin' whole) ↔
      Entries.Within place part whole := by
  constructor
  · rintro (_ | torn | ⟨there, entries⟩)
    · exact .refl
    · cases torn.isLeaf.1
    · intro key v found
      obtain ⟨w, here⟩ := Option.isSome_iff_exists.mp
        (there key (found ▸ rfl))
      exact ⟨w, here, entries key v w found here⟩
  · intro within
    refine .table (fun key present => ?_) fun key v w found here => ?_
    · obtain ⟨v, found⟩ := Option.isSome_iff_exists.mp present
      obtain ⟨w, here, _⟩ := within key v found
      exact here ▸ rfl
    · obtain ⟨w', here', inside⟩ := within key v found
      rw [here] at here'
      cases here'
      exact inside

theorem Value.within_tables {part whole : List Entries} :
    Value.Within place (.tables part) (.tables whole) ↔
      part.length ≤ whole.length ∧
        ∀ position entries entries', part[position]? = some entries →
          whole[position]? = some entries' →
            Entries.Within (place.under (.item position)) entries entries' := by
  constructor
  · rintro (_ | torn | _ | ⟨length, items⟩)
    · refine ⟨Nat.le_refl _, fun position entries entries' here here' => ?_⟩
      rw [here] at here'
      cases here'
      exact .refl
    · cases torn.isLeaf.1
    · exact ⟨length, fun position entries entries' here here' =>
        within_table.mp (items position entries entries' here here')⟩
  · rintro ⟨length, items⟩
    exact .tables length fun position entries entries' here here' =>
      within_table.mpr (items position entries entries' here here')

end

/-- A value and a part of it are the same, or one is torn, or both are tables. -/
theorem Value.Within.cases {place : Place} {v w : Value}
    (within : Value.Within place v w) :
    v = w ∨
      (∃ text more, place = some ⟨[], text, more⟩ ∧ Torn text more v w) ∨
      (∃ origin origin' part whole, v = .table origin part ∧
        w = .table origin' whole ∧ Entries.Within place part whole) ∨
      (∃ part whole, v = .tables part ∧ w = .tables whole ∧
        part.length ≤ whole.length ∧
        ∀ position entries entries', part[position]? = some entries →
          whole[position]? = some entries' →
            Entries.Within (place.under (.item position)) entries entries') := by
  cases within with
  | same => exact .inl rfl
  | torn torn => exact .inr (.inl ⟨_, _, rfl, torn⟩)
  | @table _ origin origin' part whole there entries =>
      have tables : Value.Within place (.table origin part) (.table origin' whole) :=
        .table there entries
      exact .inr (.inr (.inl ⟨origin, origin', part, whole, rfl, rfl,
        within_table.mp tables⟩))
  | @tables _ part whole length items =>
      exact .inr (.inr (.inr ⟨part, whole, rfl, rfl,
        within_tables.mp (.tables length items)⟩))

theorem Value.Within.mono {v w : Value} (within : Value.Within none v w)
    (place : Place) : Value.Within place v w := by
  generalize nowhere : (none : Place) = start at within
  induction within generalizing place with
  | same => exact .same
  | torn => cases nowhere
  | table there _ ih =>
      subst nowhere
      exact .table there fun key v w found here => ih key v w found here _ rfl
  | tables length _ ih =>
      subst nowhere
      exact .tables length fun position entries entries' found here =>
        ih position entries entries' found here _ rfl

theorem Value.Within.trans {place : Place} {u v w : Value}
    (first : Value.Within place u v) (second : Value.Within none v w) :
    Value.Within place u w := by
  induction first generalizing w with
  | same => exact second.mono _
  | torn torn =>
      cases second with
      | same => exact .torn torn
      | table => cases torn.isLeaf.2
      | tables => cases torn.isLeaf.2
  | table there entries ih =>
      cases second with
      | same => exact .table there entries
      | table there' entries' =>
          refine .table (fun key present => there' key (there key present)) ?_
          intro key v w found here
          obtain ⟨u, between⟩ := Option.isSome_iff_exists.mp
            (there key (found ▸ rfl))
          exact ih key v u found between (entries' key u w between here)
  | tables length items ih =>
      cases second with
      | same => exact .tables length items
      | tables length' items' =>
          refine .tables (Nat.le_trans length length') ?_
          intro position entries entries' found here
          obtain ⟨inside, _⟩ := List.getElem?_eq_some_iff.mp found
          have between := List.getElem?_eq_getElem (Nat.lt_of_lt_of_le inside length)
          exact ih position _ _ found between
            (items' position _ _ between here)

theorem Entries.Within.mono {part whole : Entries}
    (within : Entries.Within none part whole) (place : Place) :
    Entries.Within place part whole := by
  intro key v found
  obtain ⟨w, here, inside⟩ := within key v found
  exact ⟨w, here, inside.mono _⟩

theorem Entries.Within.trans {place : Place} {part between whole : Entries}
    (first : Entries.Within place part between)
    (second : Entries.Within none between whole) :
    Entries.Within place part whole := by
  intro key v found
  obtain ⟨u, here, inside⟩ := first key v found
  obtain ⟨w, there, outside⟩ := second key u here
  exact ⟨w, there, inside.trans outside⟩

theorem tables_within {place : Place} {part whole : Entries}
    (items : List Entries) (within : Entries.Within place part whole) :
    Value.Within (place.over [.item items.length]) (.tables (items ++ [part]))
      (.tables (items ++ [whole])) := by
  refine Value.within_tables.mpr ⟨by simp, fun position es es' here there => ?_⟩
  by_cases last : position = items.length
  · subst last
    simp only [List.getElem?_concat_length, Option.some_inj] at here there
    subst here there
    rwa [Place.under_over]
  · obtain ⟨inside, _⟩ := List.getElem?_eq_some_iff.mp here
    rw [List.length_append, List.length_singleton] at inside
    have before : position < items.length := by omega
    rw [List.getElem?_append_left before] at here there
    rw [here] at there
    cases there
    exact .refl

/-! Entries that are put into a table -/

namespace Entries

variable {entries : Entries} {key other : String} {v : Value}

theorem find?_nil : Entries.find? [] key = none := rfl

theorem find?_cons (e : String × Value) :
    Entries.find? (e :: entries) key =
      if e.1 = key then some e.2 else entries.find? key := by
  by_cases same : e.1 = key
  · simp [Entries.find?, same]
  · simp [Entries.find?, beq_false_of_ne same, if_neg same]

theorem find?_append_new (absent : entries.find? key = none) :
    Entries.find? (entries ++ [(key, v)]) other =
      if key = other then some v else entries.find? other := by
  induction entries with
  | nil => simp [find?_cons, find?_nil]
  | cons e rest ih =>
      rw [find?_cons] at absent
      split at absent
      · cases absent
      · rename_i different
        rw [List.cons_append, find?_cons, find?_cons, ih absent]
        by_cases same : e.1 = other
        · subst same
          simp [Ne.symm different]
        · simp [same]

theorem find?_put :
    (entries.put key v).find? other =
      if key = other then (entries.find? key).map fun _ => v
      else entries.find? other := by
  induction entries with
  | nil => simp [Entries.put, find?_nil]
  | cons e rest ih =>
      have ih : Entries.find? (rest.map fun e =>
          if e.1 == key then (key, v) else e) other = _ := ih
      rw [Entries.put, List.map_cons, find?_cons, find?_cons, find?_cons, ih]
      by_cases here : e.1 = key
      · by_cases same : key = other <;> simp [here, same]
      · by_cases same : key = other
        · subst same
          simp [here]
        · simp [here, same]

theorem find?_erase :
    (entries.erase key).find? other =
      if key = other then none else entries.find? other := by
  induction entries with
  | nil => simp [Entries.erase, find?_nil]
  | cons e rest ih =>
      have ih : Entries.find? (rest.filter (·.1 != key)) other = _ := ih
      rw [Entries.erase, List.filter_cons, find?_cons]
      by_cases here : e.1 = key
      · by_cases same : key = other
        · subst same
          simp [here, ih]
        · simp [here, ih, same]
      · by_cases same : key = other
        · subst same
          simp [here, ih, find?_cons]
        · simp [here, ih, same, find?_cons]

def set (entries : Entries) (key : String) (v : Value) : Entries :=
  match entries.find? key with
  | none => entries ++ [(key, v)]
  | some _ => entries.put key v

theorem find?_set :
    (entries.set key v).find? other =
      if key = other then some v else entries.find? other := by
  unfold Entries.set
  split
  · rename_i absent
    exact find?_append_new absent
  · rename_i present
    rw [find?_put, present]
    rfl

theorem set_of_none (absent : entries.find? key = none) :
    entries.set key v = entries ++ [(key, v)] := by
  rw [Entries.set, absent]

theorem set_of_some {old : Value} (present : entries.find? key = some old) :
    entries.set key v = entries.put key v := by
  rw [Entries.set, present]

theorem within_set
    (part : ∀ old, entries.find? key = some old → Value.Within none old v) :
    Entries.Within none entries (entries.set key v) := by
  intro other old found
  rw [find?_set]
  by_cases same : key = other
  · subst same
    exact ⟨v, if_pos rfl, part old found⟩
  · exact ⟨old, by rw [if_neg same]; exact found, .same⟩

theorem set_within_set {place : Place} {v w : Value} (entries : Entries)
    (key : String) (within : Value.Within place v w) :
    Entries.Within (place.over [.key key]) (entries.set key v)
      (entries.set key w) := by
  intro other u found
  rw [find?_set] at found ⊢
  by_cases same : key = other
  · subst same
    rw [if_pos rfl] at found ⊢
    cases found
    refine ⟨w, rfl, ?_⟩
    rwa [Place.under_over]
  · rw [if_neg same] at found ⊢
    exact ⟨u, found, .same⟩

end Entries

end Tollgate.Toml
