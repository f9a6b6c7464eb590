import Tollgate.Spend.Store

/-!
Runs of the spend store: operations one after the other, each at its instant.
-/

namespace Tollgate

inductive SpendOp where
  | reserve (key : String) (amount limit : Int) (period : Nat)
  | release (key : String) (amount : Int) (period : Option Nat)
  | current (key : String)
deriving DecidableEq

inductive SpendReply where
  | charge (charge : Charge)
  | total (total : Int)
  | clockOverflow
deriving DecidableEq

namespace SpendReply

def ofCharge : Option Charge → SpendReply
  | some c => charge c
  | none => clockOverflow

end SpendReply

def SpendOp.key : SpendOp → String
  | reserve key .. | release key .. | current key => key

namespace SpendStore

def perform (s : SpendStore) (now : Nat) : SpendOp → SpendReply × SpendStore
  | .reserve key amount limit period =>
      let (answer, s) := s.reserve now key amount limit period
      (.ofCharge answer, s)
  | .release key amount period =>
      let (total, s) := s.release now key amount period
      (.total total, s)
  | .current key =>
      let (total, s) := s.current now key
      (.total total, s)

def run (s : SpendStore) : List (Nat × SpendOp) → List SpendReply × SpendStore
  | [] => ([], s)
  | (now, op) :: rest =>
      let (answer, s) := s.perform now op
      let (answers, s) := s.run rest
      (answer :: answers, s)

@[simp]
theorem run_nil (s : SpendStore) : s.run [] = ([], s) := rfl

@[simp]
theorem run_cons (s : SpendStore) (now : Nat) (op : SpendOp)
    (rest : List (Nat × SpendOp)) :
    s.run ((now, op) :: rest) =
      ((s.perform now op).1 :: ((s.perform now op).2.run rest).1,
        ((s.perform now op).2.run rest).2) := rfl

end SpendStore

end Tollgate
