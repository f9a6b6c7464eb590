import Tollgate.Spend.Run

/-!
A spend store that forgets a key at the instant its period ends. It holds live
periods only, so its operations need not ask whether a period is over.
-/

namespace Tollgate

structure ExpiringStore where
  entries : Assoc SpendEntry := .empty
  nextPeriod : Nat := 0

namespace ExpiringStore

/-- Forgets every key whose period has ended. -/
def expire (s : ExpiringStore) (now : Nat) : ExpiringStore :=
  { s with entries := s.entries.filter fun _ entry => entry.isLive now }

def reserve (s : ExpiringStore) (now : Nat) (key : String)
    (amount limit : Int) (period : Nat) : Charge × ExpiringStore :=
  let (entry, nextPeriod) : SpendEntry × Nat := match s.entries.get? key with
    | some entry => (entry, s.nextPeriod)
    | none => (⟨0, now + period, s.nextPeriod⟩, s.nextPeriod + 1)
  let total := Micros.add entry.total amount
  (⟨total ≤ limit, total, entry.period⟩,
    ⟨s.entries.insert key { entry with total }, nextPeriod⟩)

def release (s : ExpiringStore) (key : String) (amount : Int)
    (period : Option Nat) : Int × ExpiringStore :=
  match s.entries.get? key with
  | none => (0, s)
  | some entry =>
      if period.all (· == entry.period) then
        let total := max 0 (Micros.sub entry.total amount)
        (total, { s with entries := s.entries.insert key { entry with total } })
      else (entry.total, s)

def current (s : ExpiringStore) (key : String) : Int :=
  ((s.entries.get? key).map (·.total)).getD 0

def perform (s : ExpiringStore) (now : Nat) (op : SpendOp) :
    SpendReply × ExpiringStore :=
  let s := s.expire now
  match op with
  | .reserve key amount limit period =>
      let (charge, s) := s.reserve now key amount limit period
      (.charge charge, s)
  | .release key amount period =>
      let (total, s) := s.release key amount period
      (.total total, s)
  | .current key => (.total (s.current key), s)

def run (s : ExpiringStore) :
    List (Nat × SpendOp) → List SpendReply × ExpiringStore
  | [] => ([], s)
  | (now, op) :: rest =>
      let (answer, s) := s.perform now op
      let (answers, s) := s.run rest
      (answer :: answers, s)

@[simp]
theorem run_cons (s : ExpiringStore) (now : Nat) (op : SpendOp)
    (rest : List (Nat × SpendOp)) :
    s.run ((now, op) :: rest) =
      ((s.perform now op).1 :: ((s.perform now op).2.run rest).1,
        ((s.perform now op).2.run rest).2) := rfl

end ExpiringStore

end Tollgate
