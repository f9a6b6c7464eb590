import Tollgate.Admin.Route
import Tollgate.Gate.Basic

/-!
The admin interface: reports on the gate, and breakers reset or opened by hand.
All but the health check needs the admin key, paths that lead nowhere too.
-/

namespace Tollgate

def version : String := "0.1.0"

def BreakerSnapshot.json (s : BreakerSnapshot) : Json :=
  .object [
    ("dependency", .string s.dependency),
    ("state", .string s.state.name),
    ("failure_count", .ofNat s.failureCount),
    ("fail_max", .ofNat s.failMax),
    ("reset_timeout_ms", .ofNat s.resetTimeoutMs),
    ("time_window_ms", .ofNat s.timeWindowMs),
    ("retry_after_ms", .ofOption .ofNat s.retryAfterMs)]

def SpendSnapshot.json (s : SpendSnapshot) : Json :=
  .object [
    ("tenant", .string s.tenant),
    ("spend", .ofFloat s.spend),
    ("limit", .ofFloat s.limit),
    ("remaining", .ofFloat s.remaining),
    ("utilization_pct", .ofFloat s.utilizationPct),
    ("status", .string s.status.name)]

/-- A header value that can be read as text: visible ASCII, blanks and tabs. -/
def isHeaderText (value : String) : Bool :=
  value.toList.all fun c =>
    c == '\t' || (32 ≤ c.toNat && c.toNat < 127)

namespace Gate

def authorizes (g : Gate) (authorization : Option String) : Bool :=
  match authorization with
  | none => false
  | some value => isHeaderText value && value == "Bearer " ++ g.admin.apiKey

def unauthorized : Response :=
  .failure 401 "unauthorized" "missing or invalid bearer token"

def serveHealth (g : Gate) : Response × Gate :=
  match g.ledger.health with
  | .ok () => (.ofJson 200 (.object [("status", .string "ok")]), g)
  | .error error =>
      (.failure 503 "store_unavailable" error.message,
        g.tell [.log (.healthCheckFailed error)])

def serveStatus (g : Gate) : Response × Gate :=
  let healthy := g.ledger.outage.isNone
  let uptime := Clock.wholeSecs g.now
  let (snapshots, g) := g.breakerSnapshots
  let opened := snapshots.filter (·.state = .opened)
  (.ofJson 200 (.object [
    ("version", .string version),
    ("status", .string (if healthy then "operational" else "degraded")),
    ("uptime_secs", .ofNat uptime),
    ("store_healthy", .boolean healthy),
    ("breakers", .ofNat snapshots.length),
    ("open_breakers", .ofNat opened.length)]), g)

def serveBreakers (g : Gate) : Response × Gate :=
  let (snapshots, g) := g.breakerSnapshots
  (.ofJson 200 (.array (snapshots.map (·.json))), g)

def serveReset (g : Gate) (dependency : String) : Response × Gate :=
  match g.resetBreaker dependency with
  | (false, g) =>
      (.failure 404 "not_found" s!"no breaker for '{dependency}'", g)
  | (true, g) =>
      let g := g.tell [.log (.breakerReset dependency)]
      let (snapshot, g) := g.breakerSnapshot dependency
      (.ofJson 200 snapshot.json, g)

def serveOpen (g : Gate) (dependency : String) : Response × Gate :=
  let g := g.forceOpen dependency
  let g := g.tell [.log (.breakerForcedOpen dependency)]
  let (snapshot, g) := g.breakerSnapshot dependency
  (.ofJson 200 snapshot.json, g)

def serveBudget (g : Gate) (tenant : String) : Response × Gate :=
  match g.spendSnapshot tenant with
  | (.ok snapshot, g) => (.ofJson 200 snapshot.json, g)
  | (.error error, g) =>
      (.failure 503 "ledger_unavailable" error.message, g)

/-- Passes on the name in a path, if its bytes are a text. -/
def withName (g : Gate) (label encoded : String)
    (serve : Gate → String → Response × Gate) : Response × Gate :=
  match Percent.decodeText? encoded with
  | some name => serve g name
  | none =>
      ({ status := 400
         body := .text ("Invalid URL: Invalid UTF-8 in \x60" ++ label ++ "\x60") },
        g)

def serveRoute (g : Gate) : Route → Response × Gate
  | .health => g.serveHealth
  | .status => g.serveStatus
  | .breakers => g.serveBreakers
  | .resetBreaker encoded => g.withName "dependency" encoded serveReset
  | .openBreaker encoded => g.withName "dependency" encoded serveOpen
  | .budget encoded => g.withName "tenant" encoded serveBudget

/-- Answers a request to a route. One for the head is answered without a body. -/
def serveMethod (g : Gate) (route : Route) (method : String) :
    Response × Gate :=
  let (response, g) :=
    if route.accepts method then g.serveRoute route else ({ status := 405 }, g)
  if method == "HEAD" then ({ response with body := .empty }, g)
  else (response, g)

def serveUnauthorized (g : Gate) (method : String) : Response × Gate :=
  if method == "HEAD" then ({ unauthorized with body := .empty }, g)
  else (unauthorized, g)

def serveKnown (g : Gate) (route : Route) (request : Request) :
    Response × Gate :=
  if route = .health || g.authorizes request.authorization then
    g.serveMethod route request.method
  else g.serveUnauthorized request.method

/-- Answers a request whose path leads nowhere. It needs the key all the same,
and is told so in full whatever its method is. -/
def serveUnknown (g : Gate) (request : Request) : Response × Gate :=
  if g.authorizes request.authorization then ({ status := 404 }, g)
  else (unauthorized, g)

def serve (g : Gate) (request : Request) : Response × Gate :=
  match Target.path? request.target with
  | none => ({ status := 400 }, g)
  | some path =>
      match Route.ofPath? path with
      | some route => g.serveKnown route request
      | none => g.serveUnknown request

end Gate

end Tollgate
