import Tollgate.Admin.Handler

/-!
What a request can make of a gate. Whatever its path and its key are, it comes
to one of a few things, and only a post interferes with a breaker.
-/

namespace Tollgate.Gate

/-- What becomes of a gate that answers a request with the method. -/
inductive Handles (method : String) (g : Gate) : Gate → Prop where
  | same : Handles method g g
  | unhealthy (error : StoreError) :
      Handles method g (g.tell [.log (.healthCheckFailed error)])
  | reports : Handles method g g.breakerSnapshots.2
  | snapshot (tenant : String) : Handles method g (g.spendSnapshot tenant).2
  | resets (dependency : String) (post : method = "POST") :
      Handles method g (g.serveReset dependency).2
  | opens (dependency : String) (post : method = "POST") :
      Handles method g (g.serveOpen dependency).2

theorem serveUnauthorized_gate (g : Gate) (method : String) :
    (g.serveUnauthorized method).2 = g := by
  unfold serveUnauthorized
  split <;> rfl

namespace Handles

variable {method : String} {route : Route}

theorem serveHealth (g : Gate) : g.Handles method g.serveHealth.2 := by
  unfold Gate.serveHealth
  split
  · exact .same
  · exact .unhealthy _

theorem serveBudget (g : Gate) (tenant : String) :
    g.Handles method (g.serveBudget tenant).2 := by
  have read : g.Handles method (g.spendSnapshot tenant).2 := .snapshot tenant
  unfold Gate.serveBudget
  split <;> rename_i answered <;> rw [answered] at read <;> exact read

theorem withName (g : Gate) (label encoded : String)
    {serve : Gate → String → Response × Gate}
    (each : ∀ name, g.Handles method (serve g name).2) :
    g.Handles method (g.withName label encoded serve).2 := by
  unfold Gate.withName
  split
  · exact each _
  · exact .same

theorem serveRoute (g : Gate) (accepted : route.accepts method) :
    g.Handles method (g.serveRoute route).2 := by
  have post (only : route.method = "POST") : method = "POST" := by
    simpa [Route.accepts, only] using accepted
  cases route with
  | health => exact serveHealth g
  | status => exact .reports
  | breakers => exact .reports
  | resetBreaker encoded =>
      exact withName g _ _ fun name => .resets name (post rfl)
  | openBreaker encoded =>
      exact withName g _ _ fun name => .opens name (post rfl)
  | budget encoded => exact withName g _ _ (serveBudget g)

theorem serveMethod (g : Gate) (route : Route) (method : String) :
    g.Handles method (g.serveMethod route method).2 := by
  have served : g.Handles method (if route.accepts method then
      g.serveRoute route else ({ status := 405 }, g)).2 := by
    split
    · exact Handles.serveRoute g ‹_›
    · exact .same
  unfold Gate.serveMethod
  split
  rename_i response after answered
  rw [answered] at served
  split <;> exact served

theorem serve (g : Gate) (request : Request) :
    g.Handles request.method (g.serve request).2 := by
  unfold Gate.serve
  split
  · exact .same
  · split
    · unfold serveKnown
      split
      · exact serveMethod g _ _
      · rw [serveUnauthorized_gate]
        exact .same
    · unfold serveUnknown
      split <;> exact .same

end Handles

end Tollgate.Gate
