import Tollgate.Admin.Handler
import Tollgate.Cli.Manage
import Tollgate.Proofs.Admin.Authorization
import Tollgate.Proofs.Cli.Naming

/-!
Whom a command is about. The server takes a name out of the path of a request
and decodes it; it is the name that the command was given exactly if that name
stands for itself in an address.
-/

namespace Tollgate

open Cli (Command Invocation)

def Cli.Command.name? : Command → Option String
  | status | breakers => none
  | reset name | trip name | budget name => some name

namespace Route

def encoded? : Route → Option String
  | resetBreaker encoded | openBreaker encoded | budget encoded => some encoded
  | health | status | breakers => none

def command? : Route → Option Command
  | health => none
  | status => some .status
  | breakers => some .breakers
  | resetBreaker encoded => (Percent.decodeText? encoded).map .reset
  | openBreaker encoded => (Percent.decodeText? encoded).map .trip
  | budget encoded => (Percent.decodeText? encoded).map .budget

theorem encoded?_of_command? {route : Route} {c : Command} {name : String}
    (understood : route.command? = some c) (about : c.name? = some name) :
    ∃ encoded, route.encoded? = some encoded ∧
      Percent.decodeText? encoded = some name ∧
      (c = .budget name → route = .budget encoded) := by
  cases route with
  | health => cases understood
  | status | breakers => cases understood; cases about
  | resetBreaker encoded | openBreaker encoded | budget encoded =>
      obtain ⟨other, decoded, rfl⟩ := Option.map_eq_some_iff.mp understood
      cases about
      exact ⟨encoded, rfl, decoded, by simp⟩

theorem mem_of_encoded? {segments : List String} {route : Route}
    {encoded : String} (found : ofSegments? ("" :: segments) = some route)
    (name : route.encoded? = some encoded) :
    encoded ∈ segments ∧ (route = .budget encoded → encoded ≠ "") := by
  generalize whole : "" :: segments = all at found
  unfold ofSegments? at found
  split at found
  · cases found; cases name
  · cases found; cases name
  · cases found; cases name
  · cases found; cases name; cases whole
    exact ⟨by simp, nofun⟩
  · cases found; cases name; cases whole
    exact ⟨by simp, nofun⟩
  · split at found
    · cases found
    · cases found; cases name; cases whole
      exact ⟨by simp, fun _ => ‹_›⟩
  · cases found

theorem ofPath?_written (path : List Char) :
    ofPath? (Url.written (Url.sentSegments path)) =
      ofSegments? ("" :: (Url.sentSegments path).map fun segment =>
        String.ofList (Percent.encode Url.isPathChar segment)) := by
  rw [ofPath?, Url.splitAtChar_written, List.map_cons, List.map_map]
  rfl

end Route

namespace Target

variable {path : List Char}

theorem eq_of_path?_targetOf {found : List Char}
    (reads : path? (Url.targetOf ('/' :: path)) = some found) :
    found = Url.written (Url.sentSegments (Url.beforeQuery path)) := by
  obtain ⟨query, after, -, target⟩ := Url.targetOf_slash path
  obtain ⟨rest, starts⟩ := List.head?_eq_some_iff.mp
    (Url.head?_written (Url.beforeQuery path))
  rw [target, starts, List.cons_append, path?_slash] at reads
  split at reads
  · cases reads
  · rw [starts]
    apply eq_of_pathOf?_append _ after (List.cons_ne_nil _ _) reads
    intro c member
    rw [← starts] at member
    exact Url.isPathChar_of_mem_written member

theorem path?_targetOf (whole : Url.beforeQuery path = path)
    (short : (Url.targetOf ('/' :: path)).utf8ByteSize ≤ longestTarget) :
    path? (Url.targetOf ('/' :: path)) =
      some (Url.written (Url.sentSegments path)) := by
  obtain ⟨query, -, none, target⟩ := Url.targetOf_slash path
  obtain ⟨rest, starts⟩ :=
    List.head?_eq_some_iff.mp (Url.head?_written path)
  rw [target, none whole, List.append_nil, whole, starts] at short ⊢
  rw [path?_slash, if_neg (Nat.not_lt.mpr short)]
  apply pathOf?_eq_self _ (List.cons_ne_nil _ _)
  intro c member
  rw [← starts] at member
  exact Url.isPathChar_of_mem_written member

end Target

/-- The command that a request is understood as. -/
def Request.command? (r : Request) : Option Command := do
  let path ← Target.path? r.target
  let route ← Route.ofPath? path
  if route.accepts r.method then route.command? else none

theorem Request.command?_eq_some {r : Request} {c : Command} :
    r.command? = some c ↔ ∃ path route, Target.path? r.target = some path ∧
      Route.ofPath? path = some route ∧ route.accepts r.method ∧
      route.command? = some c := by
  simp only [command?, Option.bind_eq_bind, Option.bind_eq_some_iff,
    Option.ite_none_right_eq_some, exists_and_left]

namespace Gate

/-- Carries out a command. -/
def obey (g : Gate) : Command → Response × Gate
  | .status => g.serveStatus
  | .breakers => g.serveBreakers
  | .reset dependency => g.serveReset dependency
  | .trip dependency => g.serveOpen dependency
  | .budget tenant => g.serveBudget tenant

theorem serveRoute_of_command? {g : Gate} {route : Route} {c : Command}
    (understood : route.command? = some c) : g.serveRoute route = g.obey c := by
  cases route with
  | health => cases understood
  | status | breakers => cases understood; rfl
  | resetBreaker encoded | openBreaker encoded | budget encoded =>
      obtain ⟨name, decoded, rfl⟩ := Option.map_eq_some_iff.mp understood
      simp only [serveRoute, withName, decoded]
      rfl

theorem serve_of_command? {g : Gate} {r : Request} {c : Command}
    (understood : r.command? = some c) (whole : r.method ≠ "HEAD")
    (bears : r.Bears g.admin.apiKey) : g.serve r = g.obey c := by
  obtain ⟨path, route, target, found, accepted, understood⟩ :=
    Request.command?_eq_some.mp understood
  have other : path ≠ "/health".toList := by
    rintro rfl
    have health : Route.ofPath? "/health".toList = some .health := by decide
    rw [health] at found
    cases found
    cases understood
  rw [serve_of_authorized target other bears, routed, found]
  simp only [serveMethod, accepted, if_true, beq_iff_eq, whole, if_false]
  exact serveRoute_of_command? understood

end Gate

namespace Cli.Command

theorem method_ne_head (c : Command) : c.method ≠ "HEAD" := by
  have either : c.method = "GET" ∨ c.method = "POST" := by
    cases c with
    | status | breakers | budget => exact .inl rfl
    | reset | trip => exact .inr rfl
  rcases either with get | post
  · rw [get]
    decide
  · rw [post]
    decide

def front : Command → List (List Char)
  | status | breakers => ["admin".toList]
  | reset _ | trip _ => ["admin".toList, "breakers".toList]
  | budget _ => ["admin".toList, "budget".toList]

def subject : Command → List Char
  | status => "status".toList
  | breakers => "breakers".toList
  | reset name | trip name | budget name => name.toList

def back : Command → List (List Char)
  | reset _ => ["reset".toList]
  | trip _ => ["open".toList]
  | _ => []

/-- Whether the command is about a name that stands for itself in its path. -/
def isPlain : Command → Bool
  | status | breakers => true
  | reset name | trip name => Url.isPlain name.toList
  | budget name => Url.isPlain name.toList && Url.endsSolid name.toList

theorem path_eq (c : Command) :
    c.path.toList = '/' :: Url.under c.front (Url.above c.subject c.back) := by
  have breakers : "/admin/breakers/".toList =
      '/' :: Url.under ["admin".toList, "breakers".toList] [] := by decide
  have budget : "/admin/budget/".toList =
      '/' :: Url.under ["admin".toList, "budget".toList] [] := by decide
  have reset : "/reset".toList = ["reset".toList].flatMap ('/' :: ·) := by
    decide
  have trip : "/open".toList = ["open".toList].flatMap ('/' :: ·) := by decide
  have below (front : List (List Char)) (rest : List Char) :
      '/' :: Url.under front [] ++ rest = '/' :: Url.under front rest :=
    congrArg _ (Url.under_append front [] rest).symm
  cases c with
  | status | breakers => decide
  | reset name =>
      change ("/admin/breakers/" ++ name ++ "/reset").toList = _
      rw [String.toList_append, String.toList_append, breakers, reset,
        List.append_assoc]
      exact below _ _
  | trip name =>
      change ("/admin/breakers/" ++ name ++ "/open").toList = _
      rw [String.toList_append, String.toList_append, breakers, trip,
        List.append_assoc]
      exact below _ _
  | budget name =>
      change ("/admin/budget/" ++ name).toList = _
      rw [String.toList_append, budget, ← Url.above_nil name.toList]
      exact below _ _

theorem front_words (c : Command) : ∀ w ∈ c.front, Url.isWord w := by
  cases c <;> simp only [front] <;> decide

theorem back_words (c : Command) : ∀ w ∈ c.back, Url.isWord w := by
  cases c <;> simp only [back] <;> decide

def course (c : Command) : List Char :=
  Url.under c.front (Url.above c.subject c.back)

def request (c : Command) (authorization : Option String) : Request where
  method := c.method
  target := Url.targetOf ('/' :: Url.tidy c.course)
  authorization := authorization

variable {c : Command} {authorization : Option String}

theorem exists_segment {name : String}
    (understood : (c.request authorization).command? = some c)
    (about : c.name? = some name) :
    ∃ segment ∈ Url.sentSegments (Url.beforeQuery (Url.tidy c.course)),
      Percent.decode (utf8 segment) = utf8 name.toList ∧
        (c = .budget name → segment ≠ []) := by
  obtain ⟨path, route, target, found, -, understood⟩ :=
    Request.command?_eq_some.mp understood
  obtain ⟨encoded, inside, decoded, budget⟩ :=
    Route.encoded?_of_command? understood about
  rw [Target.eq_of_path?_targetOf target, Route.ofPath?_written] at found
  obtain ⟨member, occupied⟩ := Route.mem_of_encoded? found inside
  obtain ⟨segment, sent, rfl⟩ := List.mem_map.mp member
  refine ⟨segment, sent, ?_, ?_⟩
  · exact (Percent.decodeText?_encode Url.keepsEscapes_isPathChar).mp decoded
  · rintro isBudget rfl
    exact occupied (budget isBudget) rfl

theorem isPlain_of_command?
    (understood : (c.request authorization).command? = some c) :
    c.isPlain := by
  cases about : c.name? with
  | none =>
      cases c with
      | status | breakers => rfl
      | _ => cases about
  | some name =>
      obtain ⟨segment, sent, means, occupied⟩ := exists_segment understood about
      cases c with
      | status | breakers => cases about
      | reset dependency | trip dependency =>
          cases about
          exact (Url.eq_of_means (front_words _) (back_words _) sent means).2.1
      | budget tenant =>
          cases about
          obtain ⟨rfl, plain, solid⟩ :=
            Url.eq_of_means (front_words _) (back_words _) sent means
          rw [isPlain, Bool.and_eq_true]
          exact ⟨plain, solid rfl (occupied rfl)⟩

theorem isPlain_subject (plain : c.isPlain) :
    Url.isPlain c.subject ∧ (c.back = [] → Url.endsSolid c.subject) := by
  cases c with
  | status | breakers => decide
  | reset dependency | trip dependency => exact ⟨plain, nofun⟩
  | budget tenant =>
      rw [isPlain, Bool.and_eq_true] at plain
      exact ⟨plain.1, fun _ => plain.2⟩

def sentName (segment : List Char) : String :=
  String.ofList (Percent.encode Url.isPathChar segment)

theorem decodeText?_sentName {name : String} (plain : Url.isPlain name.toList) :
    Percent.decodeText? (sentName name.toList) = some name := by
  rw [sentName, Percent.decodeText?_encode Url.keepsEscapes_isPathChar,
    Percent.decode_utf8_eq_self_iff]
  exact (Url.isPlain_iff.mp plain).2.1

def route : Command → Route
  | status => .status
  | breakers => .breakers
  | reset dependency => .resetBreaker (sentName dependency.toList)
  | trip dependency => .openBreaker (sentName dependency.toList)
  | budget tenant => .budget (sentName tenant.toList)

theorem ofSegments?_eq_route (plain : c.isPlain) :
    Route.ofSegments? ("" :: (c.front ++ c.subject :: c.back).map sentName) =
      some c.route := by
  have admin : sentName "admin".toList = "admin" := by decide
  have breakers : sentName "breakers".toList = "breakers" := by decide
  cases c with
  | status | breakers => decide
  | reset dependency =>
      have reset : sentName "reset".toList = "reset" := by decide
      change Route.ofSegments? ["", sentName "admin".toList,
        sentName "breakers".toList, sentName dependency.toList,
        sentName "reset".toList] = _
      rw [admin, breakers, reset]
      rfl
  | trip dependency =>
      have trip : sentName "open".toList = "open" := by decide
      change Route.ofSegments? ["", sentName "admin".toList,
        sentName "breakers".toList, sentName dependency.toList,
        sentName "open".toList] = _
      rw [admin, breakers, trip]
      rfl
  | budget tenant =>
      have budget : sentName "budget".toList = "budget" := by decide
      obtain ⟨named, solid⟩ := isPlain_subject plain
      have occupied : sentName tenant.toList ≠ "" := by
        intro empty
        have decoded := decodeText?_sentName named
        have nothing : sentName "".toList = "" := rfl
        have blank : Url.isPlain "".toList := rfl
        rw [empty, ← nothing, decodeText?_sentName blank] at decoded
        cases decoded
        exact absurd (solid rfl) (by decide)
      change Route.ofSegments? ["", sentName "admin".toList,
        sentName "budget".toList, sentName tenant.toList] = _
      rw [admin, budget]
      exact if_neg occupied

theorem command?_route (plain : c.isPlain) : c.route.command? = some c := by
  have named := (isPlain_subject plain).1
  cases c with
  | status | breakers => rfl
  | reset name | trip name | budget name =>
      exact congrArg (Option.map _) (decodeText?_sentName named)

theorem accepts_route (c : Command) : c.route.accepts c.method := by
  cases c <;> rfl

theorem command?_of_isPlain (plain : c.isPlain)
    (short : (c.request authorization).target.utf8ByteSize ≤
      Target.longestTarget) :
    (c.request authorization).command? = some c := by
  obtain ⟨named, solid⟩ := isPlain_subject plain
  obtain ⟨tidied, whole, sent⟩ :=
    Url.sent_of_isPlain c.front_words c.back_words named solid
  have target : (c.request authorization).target =
      Url.targetOf ('/' :: c.course) :=
    congrArg (fun path => Url.targetOf ('/' :: path)) tidied
  rw [target] at short
  have path : Target.path? (c.request authorization).target =
      some (Url.written (Url.sentSegments c.course)) := by
    rw [target]
    exact Target.path?_targetOf whole short
  have found : Route.ofPath? (Url.written (Url.sentSegments c.course)) =
      some c.route := by
    rw [Route.ofPath?_written, course, sent]
    exact ofSegments?_eq_route plain
  exact Request.command?_eq_some.mpr
    ⟨_, _, path, found, c.accepts_route, command?_route plain⟩

end Cli.Command

namespace Cli.Invocation

variable {i : Invocation} {o : Url.Origin}

theorem url?_of_origin (origin : (trimSlashes i.url).toList = o.address) :
    i.url? = some (o.urlOf ('/' :: Url.tidy i.command.course)) := by
  have whole : trimSlashes i.url ++ i.command.path =
      String.ofList (o.address ++ '/' :: i.command.course) := by
    rw [← String.toList_inj, String.toList_append, String.toList_ofList,
      origin, i.command.path_eq]
    rfl
  rw [url?, whole, o.parse?_address]

theorem sent?_eq_some_iff (origin : (trimSlashes i.url).toList = o.address)
    (usable : isHeaderValue ("Bearer " ++ i.key)) {sent : Cli.Sent} :
    i.sent? = some sent ↔
      (o.urlOf ('/' :: Url.tidy i.command.course)).text.utf8ByteSize ≤
          Url.longest ∧
        sent = ⟨o.host, o.portNumber,
          i.command.request (some ("Bearer " ++ i.key))⟩ := by
  rw [sent?, url?_of_origin origin]
  simp only [Option.bind_eq_bind, Option.bind_some, usable, Bool.true_and,
    decide_eq_true_eq, Option.ite_none_right_eq_some, Option.some.injEq,
    eq_comm (b := sent)]
  rfl

theorem target_le_text (url : Url) :
    url.target.utf8ByteSize ≤ url.text.utf8ByteSize := by
  rw [Url.text, String.utf8ByteSize_append, String.utf8ByteSize_append]
  omega

end Cli.Invocation

open Cli Invocation

/-- At the address of a host the request of a command is sent unless its address
is too long. A gate that it is let into understands it as that command exactly
if the command is about a name that stands for itself, and does what it
understands. -/
theorem understood_as_given_iff (i : Invocation) (o : Url.Origin)
    (origin : (trimSlashes i.url).toList = o.address)
    (usable : isHeaderValue ("Bearer " ++ i.key)) :
    (∃ url, i.url? = some url ∧
      (i.sent?.isSome ↔ url.text.utf8ByteSize ≤ Url.longest)) ∧
    ∀ sent, i.sent? = some sent →
      (sent.host = o.host ∧ sent.portNumber = o.portNumber) ∧
      (sent.request.command? = some i.command ↔ i.command.isPlain) ∧
      ∀ (g : Gate) (c : Command), sent.request.Bears g.admin.apiKey →
        sent.request.command? = some c →
          g.serve sent.request = g.obey c := by
  refine ⟨⟨_, url?_of_origin origin, ?_⟩, ?_⟩
  · rw [Option.isSome_iff_exists]
    simp only [sent?_eq_some_iff origin usable, exists_and_left,
      exists_eq, and_true]
  · intro sent isSent
    obtain ⟨short, rfl⟩ := (sent?_eq_some_iff origin usable).mp isSent
    refine ⟨⟨rfl, rfl⟩, ⟨Command.isPlain_of_command?, ?_⟩, ?_⟩
    · intro plain
      have within := target_le_text
        (o.urlOf ('/' :: Url.tidy i.command.course))
      exact Command.command?_of_isPlain plain (within.trans short)
    · intro g c bears understood
      exact Gate.serve_of_command? understood i.command.method_ne_head bears

/-- A name with a percent sign, a blank and letters of another alphabet, at the
address of a host with a slash too many. -/
theorem understood_as_given_with_percent :
    let i : Invocation :=
      ⟨"http://localhost:8081/", "secret", .trip "50% größer"⟩
    let g : Gate := .ofSettings { admin := { apiKey := "secret" } }
    (trimSlashes i.url = "http://localhost:8081" ∧
      isHeaderValue ("Bearer " ++ i.key)) ∧
    ∃ sent, i.sent? = some sent ∧ sent.host = "localhost" ∧
      sent.request.Bears g.admin.apiKey ∧
      sent.request.command? = some (.trip "50% größer") ∧
      g.serve sent.request = g.serveOpen "50% größer" := by
  intro i g
  let o : Url.Origin := {
    authority := "localhost:8081".toList
    host := "localhost"
    portNumber := 8081
    plain := fun c member => by
      have all : "localhost:8081".toList.all (fun c =>
          Url.isAuthorityChar c && !Url.isControlOrBlank c) = true := by decide
      simpa using List.all_eq_true.mp all c member
    hostText := by decide +kernel
    numberText := by decide +kernel }
  have origin : (trimSlashes i.url).toList = o.address := by decide +kernel
  have usable : isHeaderValue ("Bearer " ++ i.key) := by decide +kernel
  obtain ⟨-, each⟩ := understood_as_given_iff i o origin usable
  have authorized : i.sent?.map (·.request.authorization) =
      some (some "Bearer secret") := by decide +kernel
  obtain ⟨sent, isSent, authorization⟩ := Option.map_eq_some_iff.mp authorized
  obtain ⟨⟨host, -⟩, asGiven, obeys⟩ := each sent isSent
  have bears : sent.request.Bears g.admin.apiKey :=
    ⟨by decide +kernel, authorization⟩
  have understood := asGiven.mpr (by decide +kernel)
  refine ⟨⟨by decide +kernel, usable⟩, sent, isSent, host, bears, understood,
    ?_⟩
  exact obeys g _ bears understood

/-- A name with an escape in it. The request is about the name that the escape
stands for, and the breaker of that name is opened. -/
theorem understood_as_another :
    let i : Invocation :=
      ⟨"http://localhost:8081", "CHANGE_ME_IN_PRODUCTION", .trip "gpt%34"⟩
    let g : Gate := .ofSettings {}
    Invocation.parse ["-k", "CHANGE_ME_IN_PRODUCTION", "open", "gpt%34"]
        (fun _ => none) = .ok i ∧
      ∃ sent, i.sent? = some sent ∧
        sent.request.command? = some (.trip "gpt4") ∧
        ((g.serve sent.request).2.registry.get? "gpt4").map (·.state) =
          some .opened ∧
        (g.serve sent.request).2.registry.get? "gpt%34" = none := by
  intro i g
  have read : (i.sent?.bind (·.request.command?)) = some (.trip "gpt4") := by
    decide +kernel
  obtain ⟨sent, isSent, understood⟩ := Option.bind_eq_some_iff.mp read
  have states : (i.sent?.map fun sent =>
      let registry := (g.serve sent.request).2.registry
      ((registry.get? "gpt4").map (·.state), registry.get? "gpt%34")) =
        some (some .opened, none) := by decide +kernel
  rw [isSent, Option.map_some, Option.some.injEq, Prod.mk.injEq] at states
  exact ⟨by decide +kernel, sent, isSent, understood, states.1, states.2⟩

end Tollgate
