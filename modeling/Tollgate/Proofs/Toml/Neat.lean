import Tollgate.Proofs.Toml.Growth

/-!
No table of a document has a key twice.
-/

namespace Tollgate.Toml

/-- In a table, and in the tables inside, no key stands twice. -/
inductive Value.Neat : Value → Prop where
  | leaf {v : Value} (isLeaf : v.isLeaf) : Neat v
  | array {items : List Value} (each : ∀ v ∈ items, Neat v) : Neat (.array items)
  | table {origin : Origin} {entries : Entries}
      (keys : (entries.map (·.1)).Nodup)
      (values : ∀ key v, entries.find? key = some v → Neat v) :
      Neat (.table origin entries)
  | tables {items : List Entries}
      (each : ∀ entries ∈ items, Neat (.table .header entries)) :
      Neat (.tables items)

structure Entries.Neat (entries : Entries) : Prop where
  keys : (entries.map (·.1)).Nodup
  values : ∀ key v, entries.find? key = some v → v.Neat

variable {entries inner : Entries} {origin fresh : Origin} {key : String} {v : Value}

theorem Value.neat_table : (Value.table origin entries).Neat ↔ Entries.Neat entries := by
  constructor
  · rintro (isLeaf | _ | ⟨keys, values⟩)
    · cases isLeaf
    · exact ⟨keys, values⟩
  · rintro ⟨keys, values⟩
    exact .table keys values

theorem Value.neat_tables {items : List Entries} :
    (Value.tables items).Neat ↔ ∀ entries ∈ items, Entries.Neat entries := by
  constructor
  · rintro (isLeaf | _ | _ | ⟨each⟩)
    · cases isLeaf
    · exact fun entries inside => neat_table.mp (each entries inside)
  · exact fun each => .tables fun entries inside => neat_table.mpr (each entries inside)

namespace Entries

theorem neat_nil : Entries.Neat [] := ⟨List.nodup_nil, nofun⟩

theorem find?_eq_none_iff : entries.find? key = none ↔ key ∉ entries.map (·.1) := by
  induction entries with
  | nil => simp [find?_nil]
  | cons e rest ih =>
      rw [find?_cons, List.map_cons, List.mem_cons]
      by_cases here : e.1 = key
      · simp [here]
      · simp [here, ih, Ne.symm here]

theorem keys_put : (entries.put key v).map (·.1) = entries.map (·.1) := by
  rw [Entries.put, List.map_map]
  apply List.map_congr_left
  intro e _
  by_cases here : e.1 = key <;> simp [here]

theorem Neat.set (neat : Entries.Neat entries) (value : v.Neat) :
    Entries.Neat (entries.set key v) where
  keys := by
    rcases here : entries.find? key with _ | old
    · rw [set_of_none here, List.map_append]
      refine List.nodup_append.mpr ⟨neat.keys, by simp, ?_⟩
      rintro old there _ same rfl
      cases List.mem_singleton.mp same
      exact find?_eq_none_iff.mp here there
    · rw [set_of_some here, keys_put]
      exact neat.keys
  values other u found := by
    rw [find?_set] at found
    split at found
    · cases found
      exact value
    · exact neat.values other u found

theorem Neat.erase (neat : Entries.Neat entries) :
    Entries.Neat (entries.erase key) where
  keys := neat.keys.sublist (List.filter_sublist.map _)
  values other u found := by
    rw [find?_erase] at found
    split at found
    · cases found
    · exact neat.values other u found

theorem Neat.enter {slot : Slot} (neat : Entries.Neat entries)
    (enters : enter? fresh entries key = some slot) :
    Entries.Neat slot.inner ∧
      ∀ inner, Entries.Neat inner → (slot.rebuild inner).Neat := by
  obtain ⟨_, rfl⟩ | ⟨_, _, here, _, _, rfl⟩ | ⟨earlier, last, here, rfl⟩ :=
    enter?_cases enters
  · exact ⟨neat_nil, fun _ inside => Value.neat_table.mpr inside⟩
  · exact ⟨Value.neat_table.mp (neat.values _ _ here),
      fun _ inside => Value.neat_table.mpr inside⟩
  · have each := Value.neat_tables.mp (neat.values _ _ here)
    refine ⟨each last (List.mem_append_right _ (List.mem_singleton.mpr rfl)), ?_⟩
    intro inner inside
    refine Value.neat_tables.mpr fun entries member => ?_
    obtain before | same := List.mem_append.mp member
    · exact each entries (List.mem_append_left _ before)
    · cases List.mem_singleton.mp same
      exact inside

theorem Neat.alterAt {β : Type} {change : Origin → Entries → Option (β × Entries)}
    {path : List String} {found : β} {result : Entries} (holds : β → Prop)
    (keeps : ∀ origin inner b inner', Entries.Neat inner →
      change origin inner = some (b, inner') → holds b ∧ Entries.Neat inner')
    (neat : Entries.Neat entries)
    (changed : alterAt fresh change path origin entries = some (found, result)) :
    holds found ∧ Entries.Neat result := by
  induction path generalizing origin entries result with
  | nil => exact keeps origin entries found result neat changed
  | cons key rest ih =>
      rw [alterAt_cons] at changed
      obtain ⟨slot, enters, changed⟩ := Option.bind_eq_some_iff.mp changed
      obtain ⟨⟨b, inner⟩, inside, same⟩ := Option.map_eq_some_iff.mp changed
      cases same
      obtain ⟨neatInner, rebuilds⟩ := neat.enter enters
      obtain ⟨held, neatInner⟩ := ih neatInner inside
      exact ⟨held, neat.set (rebuilds inner neatInner)⟩

end Entries

/-! Values in braces -/

theorem neat_addEntry {path : List String} {name : String} {found : Unit}
    {result : Entries} (neat : Entries.Neat entries) (value : v.Neat)
    (added : addEntry path name v origin entries = some (found, result)) :
    Entries.Neat result := by
  rw [(addEntry_eq_some added).2]
  exact neat.set value

theorem neat_addLine {path : List String} {name : String} {result : Entries}
    (neat : Entries.Neat entries) (value : v.Neat)
    (added : entries.addLine origin path name v = some result) :
    Entries.Neat result := by
  obtain ⟨⟨_, _⟩, changed, rfl⟩ := Option.map_eq_some_iff.mp added
  refine (neat.alterAt (fun _ => True) ?_ changed).2
  intro _ _ _ _ inside added
  exact ⟨trivial, neat_addEntry inside value added⟩

theorem isLeaf_of_scalarValue {text rest : List Char}
    (found : scalarValue text = some (v, rest)) : v.isLeaf := by
  obtain ⟨_, _, _, _, _, _, rfl⟩ | ⟨_, rfl⟩ | ⟨_, rfl⟩ | ⟨_, _, _, _, here⟩ :=
    scalarValue_cases found
  · rfl
  · rfl
  · rfl
  · exact isLeaf_of_numeric here

theorem neat_braceItems {item : Scan Value} {fuel : Nat} {text rest : List Char}
    {result : Entries}
    (neatItem : ∀ {text v rest}, item text = some (v, rest) → v.Neat)
    (neat : Entries.Neat entries)
    (found : braceItems item fuel entries text = some (result, rest)) :
    Entries.Neat result := by
  induction fuel generalizing entries text with
  | zero => cases found
  | succ fuel ih =>
      obtain ⟨path, name, v, behind, added, line, adds, later⟩ :=
        braceItems_eq_some.mp found
      obtain ⟨_, _, value⟩ := keyValue_eq_some.mp line
      have neat := neat_addLine neat (neatItem value) adds
      obtain ⟨next, _, inner⟩ | ⟨_, rfl⟩ := later
      · exact ih neat inner
      · exact neat

theorem neat_arrayItems {item : Scan Value} {fuel : Nat} {text rest : List Char}
    {items : List Value}
    (neatItem : ∀ {text v rest}, item text = some (v, rest) → v.Neat)
    (found : arrayItems item fuel text = some (items, rest)) :
    ∀ v ∈ items, v.Neat := by
  induction fuel generalizing text items with
  | zero => cases found
  | succ fuel ih =>
      by_cases closed : ∃ behind, skipLines text.length text = ']' :: behind
      · obtain ⟨behind, here⟩ := closed
        rw [arrayItems_end here] at found
        cases found
        exact nofun
      · rw [arrayItems_item rfl (not_exists.mp closed)] at found
        obtain ⟨⟨value, behind⟩, first, later⟩ := Option.bind_eq_some_iff.mp found
        obtain ⟨_, others, _, inner, rfl⟩ | ⟨_, rfl⟩ := afterItem_cases later
        · exact List.forall_mem_cons.mpr ⟨neatItem first, ih inner⟩
        · exact List.forall_mem_cons.mpr ⟨neatItem first, nofun⟩

theorem neat_value (depth : Nat) {text rest : List Char}
    (found : value depth text = some (v, rest)) : v.Neat := by
  induction depth generalizing text v rest with
  | zero => exact .leaf (isLeaf_of_scalarValue found)
  | succ depth ih =>
      obtain ⟨_, _, _, inner, rfl⟩ | ⟨_, _, _, rfl⟩ |
        ⟨_, _, _, entries, _, _, _, inner, rfl⟩ | ⟨_, _, _, _, _, scalar⟩ :=
        value_cases found
      · exact .array (neat_arrayItems ih inner)
      · exact Value.neat_table.mpr Entries.neat_nil
      · exact Value.neat_table.mpr (neat_braceItems ih Entries.neat_nil inner)
      · exact .leaf (isLeaf_of_scalarValue scalar)

/-! Documents -/

theorem neat_of_mem_elementsAt {name : String} {element : Entries}
    (neat : Entries.Neat entries) (member : element ∈ elementsAt entries name) :
    Entries.Neat element := by
  unfold elementsAt at member
  split at member
  · rename_i items here
    exact Value.neat_tables.mp (neat.values _ _ here) element member
  · cases member

theorem neat_takeTable {name : String} {found result : Entries}
    (neat : Entries.Neat entries)
    (taken : takeTable name origin entries = some (found, result)) :
    Entries.Neat found ∧ Entries.Neat result := by
  unfold takeTable at taken
  split at taken
  · cases taken
    exact ⟨Entries.neat_nil, neat⟩
  · rename_i here
    cases taken
    exact ⟨Value.neat_table.mp (neat.values _ _ here), neat.erase⟩
  · cases taken

theorem neat_reserveElement {name : String} {found : Unit} {result : Entries}
    (neat : Entries.Neat entries)
    (reserved : reserveElement name origin entries = some (found, result)) :
    Entries.Neat result := by
  unfold reserveElement at reserved
  split at reserved
  · rename_i absent
    cases reserved
    rw [← Entries.set_of_none absent]
    exact neat.set (.tables nofun)
  · cases reserved
    exact neat
  · cases reserved

namespace Draft

structure Neat (d : Draft) : Prop where
  complete : Entries.Neat d.complete
  current : Entries.Neat d.current

theorem Neat.close {d : Draft} {e : Entries} (neat : d.Neat)
    (closes : d.close = some e) : Entries.Neat e := by
  obtain ⟨complete, current, place⟩ := d
  cases place with
  | root =>
      cases closes
      exact neat.current
  | table path name =>
      rw [close_table] at closes
      obtain ⟨⟨_, _⟩, filed, rfl⟩ := Option.map_eq_some_iff.mp closes
      refine (neat.complete.alterAt (fun _ => True) ?_ filed).2
      intro origin inner _ _ inside filed
      rw [(fileTable_eq_some filed).2]
      exact ⟨trivial, inside.set (Value.neat_table.mpr neat.current)⟩
  | element path name =>
      rw [close_element] at closes
      obtain ⟨⟨_, _⟩, filed, rfl⟩ := Option.map_eq_some_iff.mp closes
      refine (neat.complete.alterAt (fun _ => True) ?_ filed).2
      intro origin inner _ _ inside filed
      rw [(fileElement_eq_some filed).2]
      refine ⟨trivial, inside.set (Value.neat_tables.mpr fun entries member => ?_)⟩
      obtain before | same := List.mem_append.mp member
      · exact neat_of_mem_elementsAt inside before
      · cases List.mem_singleton.mp same
        exact neat.current

theorem Takes.neat {d d' : Draft} {text rest : List Char}
    (takes : d.Takes text d' rest) (neat : d.Neat) : d'.Neat := by
  cases takes with
  | nothing => exact neat
  | entry _ _ line _ adds =>
      obtain ⟨lines, added, rfl⟩ := addLine_eq_some adds
      obtain ⟨_, _, found⟩ := keyValue_eq_some.mp line
      have value := neat_value _ found
      refine ⟨neat.complete, (neat.current.alterAt (fun _ => True) ?_ added).2⟩
      intro _ _ _ _ inside added
      exact ⟨trivial, neat_addEntry inside value added⟩
  | table _ _ _ _ opens =>
      obtain ⟨e, lines, others, closes, taken, rfl⟩ := openTable_eq_some opens
      obtain ⟨current, complete⟩ := (neat.close closes).alterAt Entries.Neat
        (fun _ _ _ _ inside taken => neat_takeTable inside taken) taken
      exact ⟨complete, current⟩
  | element _ _ _ opens =>
      obtain ⟨e, others, closes, reserved, rfl⟩ := openElement_eq_some opens
      obtain ⟨_, complete⟩ := (neat.close closes).alterAt (fun _ => True)
        (fun _ _ _ _ inside reserved =>
          ⟨trivial, neat_reserveElement inside reserved⟩) reserved
      exact ⟨complete, Entries.neat_nil⟩

theorem Reads.neat {d d' : Draft} {text : List Char} (reads : d.Reads text d')
    (neat : d.Neat) : d'.Neat := by
  induction reads with
  | done => exact neat
  | line _ first _ ih => exact ih (first.neat neat)

end Draft

end Tollgate.Toml
