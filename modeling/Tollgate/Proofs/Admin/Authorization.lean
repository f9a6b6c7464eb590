import Tollgate.Proofs.Session.InForce

/-!
Who may use the admin interface. Beside the path of the health check, a request
is passed on to its route only with the key in force; all others get an answer
that is the same for every gate, and leave the gate as it is.
-/

namespace Tollgate

namespace Route

theorem ofSegments?_eq_health {segments : List String}
    (found : ofSegments? segments = some .health) :
    segments = ["", "health"] := by
  unfold ofSegments? at found
  split at found
  · rfl
  all_goals first | cases found | (split at found <;> cases found)

theorem ofPath?_eq_health {path : List Char}
    (found : ofPath? path = some .health) : path = "/health".toList := by
  have segments := ofSegments?_eq_health found
  have parts : splitAtChar '/' path = ["".toList, "health".toList] := by
    have texts := congrArg (List.map String.toList) segments
    simpa using texts
  rw [← joinWithChar_splitAtChar '/' path, parts]
  rfl

end Route

/-- The request bears a key, in a header value that can be read as text. -/
def Request.Bears (key : String) (r : Request) : Prop :=
  isHeaderText ("Bearer " ++ key) = true ∧
    r.authorization = some ("Bearer " ++ key)

theorem Request.Bears.unique {r : Request} {key other : String}
    (first : r.Bears key) (second : r.Bears other) : key = other := by
  have same := Option.some.inj (first.2.symm.trans second.2)
  exact (String.append_right_inj _).mp same

/-- The answer to a request without the key, if its path is not that of the
health check. -/
def denial (path : List Char) (method : String) : Response :=
  if (Route.ofPath? path).isSome && method == "HEAD" then
    { Gate.unauthorized with body := .empty }
  else Gate.unauthorized

theorem denial_status (path : List Char) (method : String) :
    (denial path method).status = 401 := by
  unfold denial
  split <;> rfl

namespace Gate

variable {g : Gate} {path : List Char} {r : Request}

/-- What is behind the check of the key. -/
def routed (g : Gate) (path : List Char) (method : String) : Response × Gate :=
  match Route.ofPath? path with
  | some route => g.serveMethod route method
  | none => ({ status := 404 }, g)

theorem authorizes_iff :
    g.authorizes r.authorization = true ↔ r.Bears g.admin.apiKey := by
  unfold authorizes Request.Bears
  cases r.authorization with
  | none => simp
  | some value =>
      simp only [Bool.and_eq_true, beq_iff_eq, Option.some.injEq]
      constructor
      · rintro ⟨readable, rfl⟩
        exact ⟨readable, rfl⟩
      · rintro ⟨readable, rfl⟩
        exact ⟨readable, rfl⟩

theorem serve_eq (target : Target.path? r.target = some path)
    (other : path ≠ "/health".toList) :
    g.serve r =
      if g.authorizes r.authorization then g.routed path r.method
      else (denial path r.method, g) := by
  unfold serve routed denial
  rw [target]
  cases found : Route.ofPath? path with
  | none =>
      simp only [found, serveUnknown]
      rfl
  | some route =>
      have guarded : route ≠ .health := by
        rintro rfl
        exact other (Route.ofPath?_eq_health found)
      simp only [found, serveKnown, guarded, decide_false, Bool.false_or,
        Option.isSome_some, Bool.true_and, serveUnauthorized]
      split
      · rfl
      · split <;> rfl

theorem serve_of_authorized (target : Target.path? r.target = some path)
    (other : path ≠ "/health".toList) (bears : r.Bears g.admin.apiKey) :
    g.serve r = g.routed path r.method := by
  rw [serve_eq target other, authorizes_iff.mpr bears, if_pos rfl]

theorem serve_of_unauthorized (target : Target.path? r.target = some path)
    (other : path ≠ "/health".toList) (denied : ¬ r.Bears g.admin.apiKey) :
    g.serve r = (denial path r.method, g) := by
  rw [serve_eq target other, if_neg (mt authorizes_iff.mp denied)]

/-! Behind the check nobody is turned away for a key. -/

theorem withName_status {serve : Gate → String → Response × Gate}
    (label encoded : String) (each : ∀ name, (serve g name).1.status ≠ 401) :
    (g.withName label encoded serve).1.status ≠ 401 := by
  unfold withName
  split
  · exact each _
  · exact nofun

theorem serveRoute_status (g : Gate) (route : Route) :
    (g.serveRoute route).1.status ≠ 401 := by
  cases route with
  | health =>
      change g.serveHealth.1.status ≠ 401
      unfold serveHealth
      split <;> exact nofun
  | status => exact nofun
  | breakers => exact nofun
  | resetBreaker encoded =>
      refine withName_status _ _ fun name => ?_
      unfold serveReset
      split <;> exact nofun
  | openBreaker encoded => exact withName_status _ _ fun name => nofun
  | budget encoded =>
      refine withName_status _ _ fun name => ?_
      unfold serveBudget
      split <;> exact nofun

theorem routed_status (g : Gate) (path : List Char) (method : String) :
    (g.routed path method).1.status ≠ 401 := by
  unfold routed
  split
  · rename_i route found
    have served : (if route.accepts method then g.serveRoute route
        else ({ status := 405 }, g)).1.status ≠ 401 := by
      split
      · exact serveRoute_status g route
      · exact nofun
    unfold serveMethod
    split
    rename_i response after answered
    rw [answered] at served
    split <;> exact served
  · exact nofun

end Gate

namespace Session

/-- Beside the health check, a request gets past the check of its key only with
the key that the last accepted settings give, whatever keys there were before.
Any other request leaves everything as it is, and is answered as every gate
answers it that does not know its key. -/
theorem only_key_in_force_admits (settings : Settings) (steps : List Step)
    (request : Request) (path : List Char)
    (target : Target.path? request.target = some path)
    (other : path ≠ "/health".toList) :
    let s := ((ofSettings settings).run steps).2
    let key := (inForce settings steps).admin.apiKey
    (request.Bears key →
      s.step (.request request) =
        s.answer (.response (s.gate.routed path request.method).1)
          (s.gate.routed path request.method).2 ∧
      (s.gate.routed path request.method).1.status ≠ 401) ∧
    (¬ request.Bears key →
      s.step (.request request) =
        (.response (denial path request.method), s) ∧
      (denial path request.method).status = 401 ∧
      ∀ g : Gate, ¬ request.Bears g.admin.apiKey →
        g.serve request = (denial path request.method, g)) ∧
    ∀ earlier, request.Bears earlier → earlier ≠ key → ¬ request.Bears key := by
  intro s key
  have inForce : s.gate.admin.apiKey = key :=
    congrArg AdminSettings.apiKey (run_admin rfl steps)
  have stepped : s.step (.request request) =
      s.answer (.response (s.gate.serve request).1)
        (s.gate.serve request).2 := rfl
  rw [stepped, ← inForce]
  refine ⟨?_, ?_, ?_⟩
  · intro bears
    rw [Gate.serve_of_authorized target other bears]
    exact ⟨rfl, Gate.routed_status _ _ _⟩
  · intro denied
    rw [Gate.serve_of_unauthorized target other denied]
    exact ⟨rfl, denial_status _ _, fun g =>
      Gate.serve_of_unauthorized target other⟩
  · intro earlier bears different again
    exact different (bears.unique again)

/-- The key is changed by a text that is accepted, and not by the one after it.
A breaker is opened with the new key, and is not even made with the old one. -/
theorem only_key_in_force_admits_rotated :
    let s := ((ofSettings {}).run
      [.reload "[admin]\napi_key = \"new\"\n", .reload "[admin"]).2
    let path := "/admin/breakers/openai/open"
    let refused := s.step (.request
      ⟨"POST", path, some "Bearer CHANGE_ME_IN_PRODUCTION"⟩)
    let served := s.step (.request ⟨"POST", path, some "Bearer new"⟩)
    refused = (.response (denial path.toList "POST"), s) ∧
      (denial path.toList "POST").status = 401 ∧
      s.gate.registry.get? "openai" = none ∧
      served = (.response (s.gate.routed path.toList "POST").1,
        { s with gate := (s.gate.routed path.toList "POST").2 }) ∧
      (s.gate.routed path.toList "POST").1.status = 200 ∧
      (served.2.gate.registry.get? "openai").map (·.state) =
        some .opened := by
  intro s path refused served
  have key : (inForce {} [.reload "[admin]\napi_key = \"new\"\n",
      .reload "[admin"]).admin.apiKey = "new" := by decide +kernel
  have target : Target.path? path = some path.toList := by decide +kernel
  have admits (value : String) := only_key_in_force_admits {}
    [.reload "[admin]\napi_key = \"new\"\n", .reload "[admin"]
    ⟨"POST", path, some value⟩ _ target (by decide)
  simp only [key] at admits
  have former : ¬ Request.Bears "new"
      ⟨"POST", path, some "Bearer CHANGE_ME_IN_PRODUCTION"⟩ := by
    rintro ⟨-, same⟩
    revert same
    decide
  have current : Request.Bears "new" ⟨"POST", path, some "Bearer new"⟩ :=
    ⟨by decide +kernel, rfl⟩
  obtain ⟨denied, status, -⟩ := (admits _).2.1 former
  exact ⟨denied, status, by decide +kernel, ((admits _).1 current).1,
    by decide +kernel, by decide +kernel⟩

end Session

end Tollgate
