import Tollgate.Proofs.Toml.Line
import Tollgate.Proofs.Toml.Slot

/-!
Documents grow while they are read: what a text gives stands in what the text
gives when it goes on, but for a value that is torn at its end.
-/

namespace Tollgate.Toml

/-! Putting tables in their places -/

/-- Puts a table with a header in its place. -/
def fileTable (name : String) (current : Entries) (_ : Origin)
    (entries : Entries) : Option (Unit × Entries) :=
  match entries.find? name with
  | none => some ((), entries ++ [(name, .table .header current)])
  | some _ => none

/-- Puts a table with a header in double brackets behind those before it. -/
def fileElement (name : String) (current : Entries) (_ : Origin)
    (entries : Entries) : Option (Unit × Entries) :=
  match entries.find? name with
  | none => some ((), entries ++ [(name, .tables [current])])
  | some (.tables items) =>
      some ((), entries.put name (.tables (items ++ [current])))
  | some _ => none

/-- Takes up a table that was made on the way to a longer header. -/
def takeTable (name : String) (_ : Origin) (entries : Entries) :
    Option (Entries × Entries) :=
  match entries.find? name with
  | none => some ([], entries)
  | some (.table .path inner) => some (inner, entries.erase name)
  | some _ => none

def reserveElement (name : String) (_ : Origin) (entries : Entries) :
    Option (Unit × Entries) :=
  match entries.find? name with
  | none => some ((), entries ++ [(name, .tables [])])
  | some (.tables _) => some ((), entries)
  | some _ => none

/-- Adds a line of its own, or behind the parts of a dotted key. -/
def addEntry (path : List String) (name : String) (v : Value) (origin : Origin)
    (entries : Entries) : Option (Unit × Entries) :=
  if (origin == .dotted) == path.isEmpty then none
  else if (entries.find? name).isSome then none
  else some ((), entries ++ [(name, v)])

theorem addEntry_eq_some {path : List String} {name : String} {v : Value}
    {origin : Origin} {entries result : Entries} {found : Unit}
    (added : addEntry path name v origin entries = some (found, result)) :
    entries.find? name = none ∧ result = entries.set name v := by
  unfold addEntry at added
  split at added
  · cases added
  · split at added
    · cases added
    · rename_i absent
      cases added
      rw [Bool.not_eq_true, Option.isSome_eq_false_iff, Option.isNone_iff_eq_none]
        at absent
      exact ⟨absent, (Entries.set_of_none absent).symm⟩

theorem fileTable_eq_some {name : String} {current : Entries} {origin : Origin}
    {entries result : Entries} {found : Unit}
    (filed : fileTable name current origin entries = some (found, result)) :
    entries.find? name = none ∧
      result = entries.set name (.table .header current) := by
  unfold fileTable at filed
  split at filed
  · rename_i absent
    cases filed
    exact ⟨absent, (Entries.set_of_none absent).symm⟩
  · cases filed

def elementsAt (entries : Entries) (name : String) : List Entries :=
  match entries.find? name with
  | some (.tables items) => items
  | _ => []

theorem fileElement_eq_some {name : String} {current : Entries} {origin : Origin}
    {entries result : Entries} {found : Unit}
    (filed : fileElement name current origin entries = some (found, result)) :
    (entries.find? name = none ∨
        entries.find? name = some (.tables (elementsAt entries name))) ∧
      result = entries.set name
        (.tables (elementsAt entries name ++ [current])) := by
  unfold fileElement at filed
  unfold elementsAt
  split at filed
  · rename_i absent
    cases filed
    rw [absent]
    exact ⟨.inl rfl, (Entries.set_of_none absent).symm⟩
  · rename_i items present
    cases filed
    rw [present]
    exact ⟨.inr rfl, (Entries.set_of_some present).symm⟩
  · cases filed

namespace Draft

variable {complete current part whole : Entries} {place : Section}
  {path : List String} {name : String}

theorem close_table :
    (⟨complete, current, .table path name⟩ : Draft).close =
      (Entries.alterAt .path (fileTable name current) path .header complete).map
        (·.2) := rfl

theorem close_element :
    (⟨complete, current, .element path name⟩ : Draft).close =
      (Entries.alterAt .path (fileElement name current) path .header
        complete).map (·.2) := rfl

theorem fileTable_within {spot : Place} (within : Entries.Within spot part whole)
    (origin : Origin) (inner : Entries) :
    ∃ way, ∀ b part' c whole',
      fileTable name part origin inner = some (b, part') →
      fileTable name whole origin inner = some (c, whole') →
        Entries.Within (spot.over way) part' whole' := by
  refine ⟨[.key name], fun _ _ _ _ filed filed' => ?_⟩
  rw [(fileTable_eq_some filed).2, (fileTable_eq_some filed').2]
  exact Entries.set_within_set inner name (Value.within_table.mpr within)

theorem fileElement_within {spot : Place} (within : Entries.Within spot part whole)
    (origin : Origin) (inner : Entries) :
    ∃ way, ∀ b part' c whole',
      fileElement name part origin inner = some (b, part') →
      fileElement name whole origin inner = some (c, whole') →
        Entries.Within (spot.over way) part' whole' := by
  refine ⟨[.key name, .item (elementsAt inner name).length],
    fun _ _ _ _ filed filed' => ?_⟩
  rw [(fileElement_eq_some filed).2, (fileElement_eq_some filed').2]
  have inside := Entries.set_within_set inner name
    (tables_within (elementsAt inner name) within)
  rwa [Place.over_over] at inside

theorem close_within {spot : Place} (within : Entries.Within spot part whole)
    (complete : Entries) (place : Section) :
    ∃ way, ∀ e e', (⟨complete, part, place⟩ : Draft).close = some e →
      (⟨complete, whole, place⟩ : Draft).close = some e' →
        Entries.Within (spot.over way) e e' := by
  cases place with
  | root =>
      refine ⟨[], fun e e' closes closes' => ?_⟩
      cases closes
      cases closes'
      rwa [Place.over_nil]
  | table path name =>
      obtain ⟨way, outside⟩ := Entries.alterAt_within_alterAt
        (fileTable_within within) .path path .header complete
      refine ⟨way, fun e e' closes closes' => ?_⟩
      obtain ⟨⟨_, _⟩, smaller, rfl⟩ := Option.map_eq_some_iff.mp closes
      obtain ⟨⟨_, _⟩, larger, rfl⟩ := Option.map_eq_some_iff.mp closes'
      exact outside _ _ _ _ smaller larger
  | element path name =>
      obtain ⟨way, outside⟩ := Entries.alterAt_within_alterAt
        (fileElement_within within) .path path .header complete
      refine ⟨way, fun e e' closes closes' => ?_⟩
      obtain ⟨⟨_, _⟩, smaller, rfl⟩ := Option.map_eq_some_iff.mp closes
      obtain ⟨⟨_, _⟩, larger, rfl⟩ := Option.map_eq_some_iff.mp closes'
      exact outside _ _ _ _ smaller larger

theorem close_isSome {other : Entries}
    (closes : (⟨complete, current, place⟩ : Draft).close.isSome) :
    (⟨complete, other, place⟩ : Draft).close.isSome := by
  cases place with
  | root => rfl
  | table path name =>
      rw [close_table, Option.isSome_map] at closes ⊢
      refine Entries.alterAt_isSome (fun _ inner filed => ?_) closes
      unfold fileTable at filed ⊢
      split <;> simp_all
  | element path name =>
      rw [close_element, Option.isSome_map] at closes ⊢
      refine Entries.alterAt_isSome (fun _ inner filed => ?_) closes
      unfold fileElement at filed ⊢
      split <;> simp_all

theorem addLine_eq_some {d d' : Draft} {v : Value}
    (adds : d.addLine path name v = some d') :
    ∃ lines, Entries.alterAt .dotted (addEntry path name v) path .header
        d.current = some ((), lines) ∧ d' = { d with current := lines } := by
  obtain ⟨lines, added, rfl⟩ := Option.map_eq_some_iff.mp adds
  obtain ⟨⟨_, _⟩, changed, rfl⟩ := Option.map_eq_some_iff.mp added
  exact ⟨_, changed, rfl⟩

theorem openTable_eq_some {d d' : Draft}
    (opens : d.openTable path name = some d') :
    ∃ e lines others, d.close = some e ∧
      Entries.alterAt .path (takeTable name) path .header e =
        some (lines, others) ∧
      d' = ⟨others, lines, .table path name⟩ := by
  obtain ⟨e, closes, opens⟩ := Option.bind_eq_some_iff.mp opens
  obtain ⟨⟨lines, others⟩, taken, same⟩ := Option.bind_eq_some_iff.mp opens
  cases same
  exact ⟨e, lines, others, closes, taken, rfl⟩

theorem openElement_eq_some {d d' : Draft}
    (opens : d.openElement path name = some d') :
    ∃ e others, d.close = some e ∧
      Entries.alterAt .path (reserveElement name) path .header e =
        some ((), others) ∧
      d' = ⟨others, [], .element path name⟩ := by
  obtain ⟨e, closes, opens⟩ := Option.bind_eq_some_iff.mp opens
  obtain ⟨⟨_, others⟩, reserved, same⟩ := Option.bind_eq_some_iff.mp opens
  cases same
  exact ⟨e, others, closes, reserved, rfl⟩

theorem within_addEntry {v : Value} {origin : Origin} {found : Unit}
    (added : addEntry path name v origin part = some (found, whole)) :
    Entries.Within none part whole := by
  obtain ⟨absent, rfl⟩ := addEntry_eq_some added
  refine Entries.within_set fun old present => ?_
  rw [absent] at present
  cases present

theorem within_reserveElement {origin : Origin} {found : Unit}
    (reserved : reserveElement name origin part = some (found, whole)) :
    Entries.Within none part whole := by
  unfold reserveElement at reserved
  split at reserved
  · rename_i absent
    cases reserved
    rw [← Entries.set_of_none absent]
    refine Entries.within_set fun old present => ?_
    rw [absent] at present
    cases present
  · cases reserved
    exact .refl
  · cases reserved

theorem within_fileElement {origin : Origin} {found : Unit}
    (filed : fileElement name current origin part = some (found, whole)) :
    Entries.Within none part whole := by
  obtain ⟨before, rfl⟩ := fileElement_eq_some filed
  refine Entries.within_set fun old present => ?_
  rw [present] at before
  obtain absent | before := before
  · cases absent
  · cases before
    refine Value.within_tables.mpr ⟨by simp, fun position es es' here there => ?_⟩
    obtain ⟨inside, _⟩ := List.getElem?_eq_some_iff.mp here
    rw [List.getElem?_append_left inside, here] at there
    cases there
    exact .refl

theorem within_takeTable_fileTable {between : Entries} {origin : Origin}
    {found : Unit}
    (taken : takeTable name origin part = some (current, between))
    (filed : fileTable name current origin between = some (found, whole)) :
    Entries.Within none part whole := by
  rw [(fileTable_eq_some filed).2]
  intro other v present
  rw [Entries.find?_set]
  unfold takeTable at taken
  split at taken
  · rename_i absent
    cases taken
    refine ⟨v, ?_, .same⟩
    rw [if_neg]
    · exact present
    · rintro rfl
      rw [absent] at present
      cases present
  · rename_i inner here
    cases taken
    by_cases same : name = other
    · subst same
      rw [here] at present
      cases present
      exact ⟨_, if_pos rfl, Value.within_table.mpr .refl⟩
    · refine ⟨v, ?_, .same⟩
      rw [if_neg same, Entries.find?_erase, if_neg same]
      exact present
  · cases taken

theorem close_within_of_addLine {d d' : Draft} {e' : Entries} {v : Value}
    (adds : d.addLine path name v = some d') (closes : d'.close = some e') :
    ∃ e, d.close = some e ∧ Entries.Within none e e' := by
  obtain ⟨lines, added, rfl⟩ := addLine_eq_some adds
  have grows : Entries.Within none d.current lines :=
    Entries.within_alterAt (fun _ _ _ _ added => within_addEntry added) added
  obtain ⟨e, before⟩ : ∃ e, d.close = some e :=
    Option.isSome_iff_exists.mp (close_isSome (by rw [closes]; rfl))
  obtain ⟨way, within⟩ := close_within grows d.complete d.place
  exact ⟨e, before, within e e' before closes⟩

theorem close_within_of_openTable {d d' : Draft} {e' : Entries}
    (opens : d.openTable path name = some d') (closes : d'.close = some e') :
    ∃ e, d.close = some e ∧ Entries.Within none e e' := by
  obtain ⟨e, lines, others, before, taken, rfl⟩ := openTable_eq_some opens
  rw [close_table] at closes
  obtain ⟨⟨_, _⟩, filed, rfl⟩ := Option.map_eq_some_iff.mp closes
  refine ⟨e, before, Entries.within_alterAt_alterAt (by decide) ?_ taken filed⟩
  intro _ _ _ _ _ taken filed
  exact within_takeTable_fileTable taken filed

theorem close_within_of_openElement {d d' : Draft} {e' : Entries}
    (opens : d.openElement path name = some d') (closes : d'.close = some e') :
    ∃ e, d.close = some e ∧ Entries.Within none e e' := by
  obtain ⟨e, others, before, reserved, rfl⟩ := openElement_eq_some opens
  rw [close_element] at closes
  obtain ⟨⟨_, _⟩, filed, rfl⟩ := Option.map_eq_some_iff.mp closes
  have room := Entries.within_alterAt
    (fun _ _ _ _ reserved => within_reserveElement reserved) reserved
  have inside := Entries.within_alterAt
    (fun _ _ _ _ filed => within_fileElement filed) filed
  exact ⟨e, before, room.trans inside⟩

/-- Taking in a line leaves all that is there in its place. -/
theorem Takes.close_within {d d' : Draft} {text rest : List Char} {e' : Entries}
    (takes : d.Takes text d' rest) (closes : d'.close = some e') :
    ∃ e, d.close = some e ∧ Entries.Within none e e' := by
  cases takes with
  | nothing => exact ⟨e', closes, .refl⟩
  | entry _ _ _ _ adds =>
      exact close_within_of_addLine adds closes
  | table _ _ _ _ opens =>
      exact close_within_of_openTable opens closes
  | element _ _ _ opens =>
      exact close_within_of_openElement opens closes

theorem Reads.close_within {d d' : Draft} {text : List Char} {e' : Entries}
    (reads : d.Reads text d') (closes : d'.close = some e') :
    ∃ e, d.close = some e ∧ Entries.Within none e e' := by
  induction reads with
  | done => exact ⟨e', closes, .refl⟩
  | line _ first _ ih =>
      obtain ⟨between, closes, later⟩ := ih closes
      obtain ⟨e, closes, here⟩ := first.close_within closes
      exact ⟨e, closes, here.trans later⟩

end Draft

/-! Documents -/

end Tollgate.Toml
