/-!
Time. Instants are nanoseconds since the clock was started, durations are
nanoseconds. The clock holds whole seconds in a signed 64-bit word, so adding a
long duration can overflow it.
-/

namespace Tollgate.Clock

/-- The nanoseconds of so many seconds. -/
def secs (count : Nat) : Nat := count * 1000000000

def millis (count : Nat) : Nat := count * 1000000

def wholeSecs (duration : Nat) : Nat := duration / 1000000000

def wholeMillis (duration : Nat) : Nat := duration / 1000000

/-- The clock overflows from here on. -/
def limit : Nat := secs 9223372036854775807

def after? (now duration : Nat) : Option Nat :=
  if now + duration < limit then some (now + duration) else none

theorem after?_eq_none_iff (now duration : Nat) :
    after? now duration = none ↔ limit ≤ now + duration := by
  simp [after?]

/-- The instants of events come in order, none before `start`. Each event is at
one instant: what it reads off the clock is the time at which it takes place, and
no other event comes in between. -/
def InOrder (start : Nat) : List (Nat × α) → Prop
  | [] => True
  | (now, _) :: rest => start ≤ now ∧ InOrder now rest

instance decidableInOrder : (start : Nat) → (events : List (Nat × α)) →
    Decidable (InOrder start events)
  | _, [] => isTrue trivial
  | start, (now, _) :: rest =>
      have := decidableInOrder now rest
      inferInstanceAs (Decidable (start ≤ now ∧ InOrder now rest))

theorem inOrder_of_append_left {start : Nat} {before later : List (Nat × α)}
    (inOrder : InOrder start (before ++ later)) : InOrder start before := by
  induction before generalizing start with
  | nil => trivial
  | cons first rest ih => exact ⟨inOrder.1, ih inOrder.2⟩

theorem le_of_inOrder_append {start now : Nat} {event : α}
    {before later : List (Nat × α)}
    (inOrder : InOrder start (before ++ (now, event) :: later)) :
    start ≤ now ∧ ∀ earlier ∈ before, earlier.1 ≤ now := by
  induction before generalizing start with
  | nil => exact ⟨inOrder.1, nofun⟩
  | cons first rest ih =>
      obtain ⟨passed, ordered⟩ := ih inOrder.2
      refine ⟨Nat.le_trans inOrder.1 passed, ?_⟩
      intro earlier member
      rcases List.mem_cons.mp member with rfl | member
      · exact passed
      · exact ordered earlier member

theorem inOrder_of_append {start now : Nat} {event : α}
    {before later : List (Nat × α)}
    (inOrder : InOrder start (before ++ (now, event) :: later)) :
    InOrder now later := by
  induction before generalizing start with
  | nil => exact inOrder.2
  | cons first rest ih => exact ih inOrder.2

end Tollgate.Clock
