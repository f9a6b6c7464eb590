/-!
Finite maps from texts, their entries in ascending order of the key.
-/

namespace Tollgate

structure Assoc (α : Type) where
  entries : List (String × α)
  ascending : entries.Pairwise (·.1 < ·.1)

namespace Assoc

/-! Lists of entries -/

def lookup? (key : String) : List (String × α) → Option α
  | [] => none
  | (k, v) :: rest => if k = key then some v else lookup? key rest

def insertEntry (key : String) (value : α) :
    List (String × α) → List (String × α)
  | [] => [(key, value)]
  | (k, v) :: rest =>
      if k = key then (key, value) :: rest
      else if key < k then (key, value) :: (k, v) :: rest
      else (k, v) :: insertEntry key value rest

theorem mem_insertEntry {key : String} {value : α}
    {entries : List (String × α)} {e : String × α}
    (h : e ∈ insertEntry key value entries) :
    e = (key, value) ∨ e ∈ entries := by
  induction entries with
  | nil => simpa [insertEntry] using h
  | cons head rest ih =>
      obtain ⟨k, v⟩ := head
      simp only [insertEntry] at h
      split at h
      · rcases List.mem_cons.mp h with h | h
        · exact .inl h
        · exact .inr (List.mem_cons_of_mem _ h)
      · split at h
        · rcases List.mem_cons.mp h with h | h
          · exact .inl h
          · exact .inr h
        · rcases List.mem_cons.mp h with h | h
          · exact .inr (h ▸ List.mem_cons_self)
          · rcases ih h with h | h
            · exact .inl h
            · exact .inr (List.mem_cons_of_mem _ h)

theorem insertEntry_ascending (key : String) (value : α)
    {entries : List (String × α)}
    (h : entries.Pairwise (·.1 < ·.1)) :
    (insertEntry key value entries).Pairwise (·.1 < ·.1) := by
  induction entries with
  | nil => simp [insertEntry]
  | cons head rest ih =>
      obtain ⟨k, v⟩ := head
      rw [List.pairwise_cons] at h
      simp only [insertEntry]
      split
      · rename_i same
        subst same
        exact List.pairwise_cons.mpr ⟨h.1, h.2⟩
      · rename_i different
        split
        · rename_i below
          refine List.pairwise_cons.mpr ⟨fun e he => ?_,
            List.pairwise_cons.mpr h⟩
          rcases List.mem_cons.mp he with rfl | he
          · exact below
          · exact String.lt_trans below (h.1 e he)
        · rename_i notBelow
          have above : k < key :=
            (Std.lt_trichotomy k key).resolve_right
              (fun other => other.elim different notBelow)
          refine List.pairwise_cons.mpr ⟨fun e he => ?_, ih h.2⟩
          rcases mem_insertEntry he with rfl | he
          · exact above
          · exact h.1 e he

/-! The map -/

def empty : Assoc α := ⟨[], .nil⟩

instance : Inhabited (Assoc α) := ⟨empty⟩

def get? (m : Assoc α) (key : String) : Option α :=
  lookup? key m.entries

def contains (m : Assoc α) (key : String) : Bool :=
  (m.get? key).isSome

def insert (m : Assoc α) (key : String) (value : α) : Assoc α :=
  ⟨insertEntry key value m.entries, insertEntry_ascending key value m.ascending⟩

def erase (m : Assoc α) (key : String) : Assoc α :=
  ⟨m.entries.filter (·.1 ≠ key), m.ascending.filter _⟩

def size (m : Assoc α) : Nat := m.entries.length

def isEmpty (m : Assoc α) : Bool := m.entries.isEmpty

def keys (m : Assoc α) : List String := m.entries.map (·.1)

def values (m : Assoc α) : List α := m.entries.map (·.2)

def filter (keep : String → α → Bool) (m : Assoc α) : Assoc α :=
  ⟨m.entries.filter fun e => keep e.1 e.2, m.ascending.filter _⟩

def map (f : α → β) (m : Assoc α) : Assoc β :=
  ⟨m.entries.map fun e => (e.1, f e.2),
    List.pairwise_map.mpr m.ascending⟩

/-- The map with the given entries; of equal keys the last one counts. -/
def ofList (entries : List (String × α)) : Assoc α :=
  entries.foldl (fun m e => m.insert e.1 e.2) empty

end Assoc

end Tollgate
