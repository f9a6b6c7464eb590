import Tollgate.Breaker.Basic
import Tollgate.Sorting

/-!
One breaker per dependency, made when the dependency is first used and kept
from then on.
-/

namespace Tollgate

structure Registry where
  defaults : BreakerConfig
  /-- What breakers of single dependencies go by, in place of the defaults. -/
  overrides : Assoc BreakerConfig := .empty
  breakers : Assoc Breaker := .empty

namespace Registry

def ofSettings (s : BreakerSettings) : Registry where
  defaults := s.defaults.config
  overrides := s.overrides.map (·.config)

def configFor (r : Registry) (dependency : String) : BreakerConfig :=
  (r.overrides.get? dependency).getD r.defaults

def get? (r : Registry) (dependency : String) : Option Breaker :=
  r.breakers.get? dependency

def put (r : Registry) (dependency : String) (b : Breaker) : Registry :=
  { r with breakers := r.breakers.insert dependency b }

/-- The breaker of a dependency, made if there is none. A new breaker is logged
and shows on its gauge. -/
def getOrCreate (r : Registry) (dependency : String) :
    Breaker × List Signal × Registry :=
  match r.get? dependency with
  | some b => (b, [], r)
  | none =>
      let b : Breaker := { dependency, config := r.configFor dependency }
      (b, [.log (.breakerCreated dependency), .gauge dependency .closed],
        r.put dependency b)

/-- Breakers for a report, by dependency, in whatever order they are listed. -/
def reportOf (listed : List Breaker) (now : Nat) : List BreakerSnapshot :=
  sortBy (fun a b => a.dependency ≤ b.dependency)
    (listed.map fun b => (b.snapshot now).1)

/-- Every breaker for a report. Stale failures are dropped. -/
def snapshots (r : Registry) (now : Nat) : List BreakerSnapshot × Registry :=
  (reportOf r.breakers.values now,
    { r with breakers := r.breakers.map fun b => (b.snapshot now).2 })

def reset (r : Registry) (dependency : String) :
    Bool × List Signal × Registry :=
  match r.get? dependency with
  | none => (false, [], r)
  | some b =>
      let step := b.reset
      (true, step.signals, r.put dependency step.breaker)

def resetAll (r : Registry) : List Signal × Registry :=
  (r.breakers.values.flatMap fun b => b.reset.signals,
    { r with breakers := r.breakers.map fun b => b.reset.breaker })

end Registry

end Tollgate
