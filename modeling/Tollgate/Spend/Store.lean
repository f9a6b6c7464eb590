import Tollgate.Assoc
import Tollgate.Clock
import Tollgate.Spend.Micros

/-!
The spend store: one running total per key, each in an accounting period that
begins with the first charge and ends a fixed time later. An entry whose period
has ended stays until the key is used again.
-/

namespace Tollgate

/-- A key's running total in micro-units, when its period ends, and the id of
that period. -/
structure SpendEntry where
  total : Int
  expiresAt : Nat
  period : Nat
deriving DecidableEq

/-- The period has not ended; at its end it has. -/
def SpendEntry.isLive (e : SpendEntry) (now : Nat) : Bool :=
  now < e.expiresAt

/-- The answer to a charge, which is recorded whether it fits or not. -/
structure Charge where
  allowed : Bool
  total : Int
  period : Nat
deriving DecidableEq

structure SpendStore where
  entries : Assoc SpendEntry := .empty
  /-- The id of the next period, of whatever key. -/
  nextPeriod : Nat := 0

namespace SpendStore

/-- The number of keys, those with an ended period included. -/
def size (s : SpendStore) : Nat := s.entries.size

def startPeriod (s : SpendStore) (key : String) (endsAt : Nat) :
    SpendEntry × SpendStore :=
  let entry : SpendEntry := ⟨0, endsAt, s.nextPeriod⟩
  (entry, ⟨s.entries.insert key entry, s.nextPeriod + 1⟩)

/-- The key's entry, in a live period or one that starts now. A period without
length ends as it starts, so a new key goes through two of them. When the clock
cannot hold the end, only the total of an ended period is cleared. -/
def freshEntry (s : SpendStore) (now : Nat) (key : String)
    (period : Nat) : Option SpendEntry × SpendStore :=
  match s.entries.get? key with
  | some entry =>
      if entry.isLive now then (some entry, s)
      else match Clock.after? now period with
        | some endsAt =>
            let (entry, s) := s.startPeriod key endsAt
            (some entry, s)
        | none =>
            let cleared := { entry with total := 0 }
            (none, { s with entries := s.entries.insert key cleared })
  | none =>
      match Clock.after? now period with
      | none => (none, s)
      | some endsAt =>
          let (entry, s) := s.startPeriod key endsAt
          if entry.isLive now then (some entry, s)
          else
            let (entry, s) := s.startPeriod key endsAt
            (some entry, s)

/-- Adds `amount` to the key's total and compares the sum with `limit`. Nothing
is answered when a period has to start that the clock cannot hold. -/
def reserve (s : SpendStore) (now : Nat) (key : String)
    (amount limit : Int) (period : Nat) : Option Charge × SpendStore :=
  match s.freshEntry now key period with
  | (none, s) => (none, s)
  | (some entry, s) =>
      let total := Micros.add entry.total amount
      (some ⟨total ≤ limit, total, entry.period⟩,
        { s with entries := s.entries.insert key { entry with total } })

/-- Takes `amount` off the key's total, not below zero, if its period is live
and is the one asked for. Answers the key's total. -/
def release (s : SpendStore) (now : Nat) (key : String) (amount : Int)
    (period : Option Nat) : Int × SpendStore :=
  match s.entries.get? key with
  | none => (0, s)
  | some entry =>
      if !entry.isLive now then (0, s)
      else if period.all (· == entry.period) then
        let less := Micros.sub entry.total amount
        let total := if less < 0 then 0 else less
        (total, { s with entries := s.entries.insert key { entry with total } })
      else (entry.total, s)

def current (s : SpendStore) (now : Nat) (key : String) :
    Int × SpendStore :=
  match s.entries.get? key with
  | none => (0, s)
  | some entry =>
      if entry.isLive now then (entry.total, s)
      else (0, { s with entries := s.entries.erase key })

end SpendStore

inductive StoreError where
  | unavailable (reason : String)
  | malformed (reason : String)
deriving DecidableEq

def StoreError.message : StoreError → String
  | unavailable reason => "spend store unavailable: " ++ reason
  | malformed reason => "spend store returned malformed data: " ++ reason

end Tollgate
