import Tollgate.Breaker.Client
import Tollgate.Breaker.Registry

/-!
Runs of a registry: operations on the breakers of any dependencies one after the
other, each at its instant.
-/

namespace Tollgate

inductive RegistryOp where
  | getOrCreate (dependency : String)
  | get (dependency : String)
  | ask (dependency : String) (op : BreakerOp)
  | resolve (dependency : String) (use : PermitUse)
  | reset (dependency : String)
  | resetAll
  | snapshots
deriving DecidableEq

inductive RegistryReply where
  | breaker (b : Option Breaker)
  | reply (reply : BreakerReply)
  | found (b : Bool)
  | snapshots (snapshots : List BreakerSnapshot)
  | done
deriving DecidableEq

namespace Registry

def ask (r : Registry) (now : Nat) (dependency : String) (op : BreakerOp) :
    BreakerReply × List Signal × Registry :=
  let (b, made, r) := r.getOrCreate dependency
  let (reply, step) := b.perform now op
  (reply, made ++ step.signals, r.put dependency step.breaker)

def resolve (r : Registry) (now : Nat) (dependency : String)
    (use : PermitUse) : List Signal × Registry :=
  match r.get? dependency, use.op? with
  | some b, some op =>
      let (_, step) := b.perform now op
      (step.signals, r.put dependency step.breaker)
  | _, _ => ([], r)

def perform (r : Registry) (now : Nat) :
    RegistryOp → RegistryReply × List Signal × Registry
  | .getOrCreate dependency =>
      let (b, signals, r) := r.getOrCreate dependency
      (.breaker (some b), signals, r)
  | .get dependency => (.breaker (r.get? dependency), [], r)
  | .ask dependency op =>
      let (reply, signals, r) := r.ask now dependency op
      (.reply reply, signals, r)
  | .resolve dependency use => (.done, r.resolve now dependency use)
  | .reset dependency =>
      let (found, signals, r) := r.reset dependency
      (.found found, signals, r)
  | .resetAll => (.done, r.resetAll)
  | .snapshots =>
      let (list, r) := r.snapshots now
      (.snapshots list, [], r)

def run (r : Registry) :
    List (Nat × RegistryOp) → List RegistryReply × List Signal × Registry
  | [] => ([], [], r)
  | (now, op) :: rest =>
      let (answer, told, r) := r.perform now op
      let (answers, later, r) := r.run rest
      (answer :: answers, told ++ later, r)

@[simp]
theorem run_nil (r : Registry) : r.run [] = ([], [], r) := rfl

@[simp]
theorem run_cons (r : Registry) (now : Nat) (op : RegistryOp)
    (rest : List (Nat × RegistryOp)) :
    r.run ((now, op) :: rest) =
      ((r.perform now op).1 :: ((r.perform now op).2.2.run rest).1,
        (r.perform now op).2.1 ++ ((r.perform now op).2.2.run rest).2.1,
        ((r.perform now op).2.2.run rest).2.2) := rfl

end Registry

end Tollgate
