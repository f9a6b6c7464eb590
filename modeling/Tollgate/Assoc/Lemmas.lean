import Tollgate.Assoc

/-!
Laws of maps, all by way of `get?`: what each operation does to the value under
a key, that values and entries are the same thing, and that two maps with the
same values under all keys are equal.
-/

namespace Tollgate.Assoc

variable {α β : Type}

/-! Lists of entries -/

theorem lookup?_insertEntry (key other : String) (value : α)
    (entries : List (String × α)) :
    lookup? other (insertEntry key value entries) =
      if key = other then some value else lookup? other entries := by
  induction entries with
  | nil => simp [insertEntry, lookup?]
  | cons head rest ih =>
      obtain ⟨k, v⟩ := head
      by_cases same : k = key
      · subst same
        simp only [insertEntry, lookup?, if_pos]
        split <;> rfl
      · by_cases below : key < k
        · simp [insertEntry, lookup?, same, below]
        · simp only [insertEntry, lookup?, same, below, if_false, ih]
          by_cases here : k = other
          · subst here
            simp [Ne.symm same]
          · simp [here]

theorem mem_of_lookup? {key : String} {value : α}
    {entries : List (String × α)} (found : lookup? key entries = some value) :
    (key, value) ∈ entries := by
  induction entries with
  | nil => simp [lookup?] at found
  | cons head rest ih =>
      obtain ⟨k, v⟩ := head
      simp only [lookup?] at found
      split at found
      · rename_i same
        subst same
        cases found
        exact List.mem_cons_self
      · exact List.mem_cons_of_mem _ (ih found)

theorem lookup?_of_mem {key : String} {value : α}
    {entries : List (String × α)} (ascending : entries.Pairwise (·.1 < ·.1))
    (member : (key, value) ∈ entries) : lookup? key entries = some value := by
  induction entries with
  | nil => simp at member
  | cons head rest ih =>
      obtain ⟨k, v⟩ := head
      rw [List.pairwise_cons] at ascending
      rcases List.mem_cons.mp member with here | later
      · cases here
        simp [lookup?]
      · have above : k < key := ascending.1 _ later
        have different : k ≠ key := by
          rintro rfl
          exact String.lt_irrefl k above
        simp only [lookup?, if_neg different]
        exact ih ascending.2 later

theorem lookup?_filter_key (keep : String → Bool) (key : String)
    (entries : List (String × α)) :
    lookup? key (entries.filter fun e => keep e.1) =
      if keep key then lookup? key entries else none := by
  induction entries with
  | nil => simp [lookup?]
  | cons head rest ih =>
      obtain ⟨k, v⟩ := head
      by_cases kept : keep k <;> by_cases here : k = key
      · subst here
        simp [lookup?, kept]
      · simp [lookup?, kept, here, ih]
      · subst here
        simp [kept, ih]
      · simp [lookup?, kept, here, ih]

theorem lookup?_map (f : α → β) (key : String)
    (entries : List (String × α)) :
    lookup? key (entries.map fun e => (e.1, f e.2)) =
      (lookup? key entries).map f := by
  induction entries with
  | nil => rfl
  | cons head rest ih =>
      obtain ⟨k, v⟩ := head
      by_cases here : k = key <;> simp [lookup?, here, ih]

/-! Maps -/

theorem mem_entries_iff {m : Assoc α} {key : String} {value : α} :
    (key, value) ∈ m.entries ↔ m.get? key = some value :=
  ⟨lookup?_of_mem m.ascending, mem_of_lookup?⟩

@[simp]
theorem get?_empty (key : String) : (empty : Assoc α).get? key = none := rfl

theorem get?_insert (m : Assoc α) (key other : String) (value : α) :
    (m.insert key value).get? other =
      if key = other then some value else m.get? other :=
  lookup?_insertEntry key other value m.entries

@[simp]
theorem get?_insert_self (m : Assoc α) (key : String) (value : α) :
    (m.insert key value).get? key = some value := by
  simp [get?_insert]

theorem get?_insert_of_ne (m : Assoc α) {key other : String} (value : α)
    (different : key ≠ other) :
    (m.insert key value).get? other = m.get? other := by
  simp [get?_insert, different]

theorem get?_erase (m : Assoc α) (key other : String) :
    (m.erase key).get? other = if key = other then none else m.get? other := by
  have found := lookup?_filter_key (fun k => decide (k ≠ key)) other m.entries
  by_cases same : key = other
  · subst same
    simpa [get?, erase] using found
  · simpa [get?, erase, same, Ne.symm same] using found

@[simp]
theorem get?_map (f : α → β) (m : Assoc α) (key : String) :
    (m.map f).get? key = (m.get? key).map f :=
  lookup?_map f key m.entries

theorem get?_filter (keep : String → α → Bool) (m : Assoc α) (key : String) :
    (m.filter keep).get? key = (m.get? key).filter (keep key) := by
  cases found : m.get? key with
  | none =>
      rw [Option.filter_none]
      cases kept : (m.filter keep).get? key with
      | none => rfl
      | some value =>
          have member := mem_entries_iff.mpr kept
          have inside : (key, value) ∈ m.entries :=
            (List.mem_filter.mp member).1
          rw [mem_entries_iff.mp inside] at found
          cases found
  | some value =>
      have member := mem_entries_iff.mpr found
      by_cases kept : keep key value
      · rw [Option.filter_some_pos kept]
        exact mem_entries_iff.mp (List.mem_filter.mpr ⟨member, kept⟩)
      · rw [Option.filter_some_neg (by simpa using kept)]
        cases other : (m.filter keep).get? key with
        | none => rfl
        | some result =>
            have inside := List.mem_filter.mp (mem_entries_iff.mpr other)
            rw [mem_entries_iff.mp inside.1] at found
            cases found
            exact absurd inside.2 kept

theorem mem_keys_iff {m : Assoc α} {key : String} :
    key ∈ m.keys ↔ (m.get? key).isSome := by
  rw [Option.isSome_iff_exists, keys, List.mem_map]
  constructor
  · rintro ⟨⟨_, value⟩, member, rfl⟩
    exact ⟨value, mem_entries_iff.mp member⟩
  · rintro ⟨value, found⟩
    exact ⟨(key, value), mem_entries_iff.mpr found, rfl⟩

theorem filter_key (m : Assoc α) (key : String) :
    m.entries.filter (·.1 == key) = ((m.get? key).map (key, ·)).toList := by
  obtain ⟨entries, ascending⟩ := m
  unfold get?
  induction entries with
  | nil => rfl
  | cons head rest ih =>
      obtain ⟨k, v⟩ := head
      obtain ⟨below, ascending⟩ := List.pairwise_cons.mp ascending
      by_cases here : k = key
      · subst here
        have others : rest.filter (·.1 == k) = [] := by
          rw [List.filter_eq_nil_iff]
          intro e member same
          have above := below e member
          rw [beq_iff_eq.mp same] at above
          exact String.lt_irrefl _ above
        simp [lookup?, others]
      · simp only [lookup?, if_neg here, ← ih ascending]
        simp [here]

theorem entries_of_get?_eq_some {m : Assoc α} {key : String} {value : α}
    (found : m.get? key = some value) :
    ∃ before after, m.entries = before ++ (key, value) :: after ∧
      ∀ e ∈ before ++ after, e.1 ≠ key := by
  obtain ⟨before, after, entries⟩ :=
    List.append_of_mem (mem_entries_iff.mpr found)
  have ascending := m.ascending
  rw [entries, List.pairwise_append, List.pairwise_cons] at ascending
  refine ⟨before, after, entries, ?_⟩
  rintro e member rfl
  rcases List.mem_append.mp member with earlier | later
  · exact String.lt_irrefl _
      (ascending.2.2 e earlier (e.1, value) List.mem_cons_self)
  · exact String.lt_irrefl _ (ascending.2.1.1 e later)

theorem nodup_entries (m : Assoc α) : m.entries.Nodup :=
  m.ascending.imp fun {a b} below same => by
    subst same
    exact String.lt_irrefl _ below

theorem ext_get? {m n : Assoc α} (same : ∀ key, m.get? key = n.get? key) :
    m = n := by
  have members : ∀ e, e ∈ m.entries ↔ e ∈ n.entries := fun e => by
    rw [mem_entries_iff, mem_entries_iff, same]
  have entries : m.entries = n.entries :=
    List.Perm.eq_of_pairwise
      (fun a b _ _ below above =>
        absurd (String.lt_trans below above) (String.lt_irrefl a.1))
      m.ascending n.ascending
      ((List.perm_ext_iff_of_nodup m.nodup_entries n.nodup_entries).mpr members)
  cases m
  cases n
  cases entries
  rfl

@[simp]
theorem insert_insert (m : Assoc α) (key : String) (first second : α) :
    (m.insert key first).insert key second = m.insert key second := by
  apply ext_get?
  intro other
  simp only [get?_insert]
  split <;> rfl

theorem insert_of_get?_eq_some {m : Assoc α} {key : String} {value : α}
    (found : m.get? key = some value) : m.insert key value = m := by
  apply ext_get?
  intro other
  rw [get?_insert]
  split
  · rename_i same
    subst same
    exact found.symm
  · rfl

theorem map_insert (f : α → β) (m : Assoc α) (key : String) (value : α) :
    (m.insert key value).map f = (m.map f).insert key (f value) := by
  apply ext_get?
  intro other
  simp only [get?_map, get?_insert]
  split <;> rfl

theorem map_erase (f : α → β) (m : Assoc α) (key : String) :
    (m.erase key).map f = (m.map f).erase key := by
  apply ext_get?
  intro other
  simp only [get?_map, get?_erase]
  split <;> rfl

theorem map_map {γ : Type} (f : α → β) (g : β → γ) (m : Assoc α) :
    (m.map f).map g = m.map (g ∘ f) := by
  apply ext_get?
  intro key
  simp only [get?_map, Option.map_map]

@[simp]
theorem values_map (f : α → β) (m : Assoc α) :
    (m.map f).values = m.values.map f := by
  simp [values, map]

@[simp]
theorem size_map (f : α → β) (m : Assoc α) : (m.map f).size = m.size := by
  simp [size, map]

@[simp]
theorem keys_map (f : α → β) (m : Assoc α) : (m.map f).keys = m.keys := by
  simp [keys, map]

theorem nodup_keys (m : Assoc α) : m.keys.Nodup := by
  refine List.pairwise_map.mpr (m.ascending.imp ?_)
  intro first second below same
  rw [same] at below
  exact String.lt_irrefl _ below

theorem erase_of_get?_eq_none {m : Assoc α} {key : String}
    (absent : m.get? key = none) : m.erase key = m := by
  apply ext_get?
  intro other
  rw [get?_erase]
  split
  · rename_i same
    subst same
    exact absent.symm
  · rfl

end Tollgate.Assoc
