import Tollgate.Admin.Route
import Tollgate.Cli.Arguments
import Tollgate.Cli.Reply
import Tollgate.Cli.Url

/-!
The management program: one command, one request to the admin interface, and a
report on the answer.
-/

namespace Tollgate.Cli

inductive Command where
  | status
  | breakers
  | reset (dependency : String)
  | trip (dependency : String)
  | budget (tenant : String)
deriving DecidableEq

namespace Command

def ofParsed? : String × List String → Option Command
  | ("status", []) => some .status
  | ("breakers", []) => some .breakers
  | ("reset", [dependency]) => some (.reset dependency)
  | ("open", [dependency]) => some (.trip dependency)
  | ("budget", [tenant]) => some (.budget tenant)
  | _ => none

def method : Command → String
  | reset _ | trip _ => "POST"
  | _ => "GET"

/-- The path of a command. The name goes in as it was given. -/
def path : Command → String
  | status => "/admin/status"
  | breakers => "/admin/breakers"
  | reset dependency => "/admin/breakers/" ++ dependency ++ "/reset"
  | trip dependency => "/admin/breakers/" ++ dependency ++ "/open"
  | budget tenant => "/admin/budget/" ++ tenant

end Command

def grammar : Grammar where
  options := [
    { name := "url", short := 'u' }, { name := "key", short := 'k' }]
  commands := [⟨"status", 0⟩, ⟨"breakers", 0⟩, ⟨"reset", 1⟩, ⟨"open", 1⟩,
    ⟨"budget", 1⟩]

structure Invocation where
  url : String
  key : String
  command : Command
deriving DecidableEq

/-- Reads the command line. The address and the key may come from the
environment; the address has a default. -/
def Invocation.parse (args : List String) (environment : String → Option String) :
    Except Halt Invocation := do
  let parsed ← grammar.parse args
  let url := ((parsed.options.get? "url").or (environment "GATE_ADMIN_URL")).getD
    "http://localhost:8081"
  match (parsed.options.get? "key").or (environment "GATE_ADMIN_KEY"),
      parsed.command.bind Command.ofParsed? with
  | some key, some command => .ok ⟨url, key, command⟩
  | _, _ => .error .usage

/-- What a header value may hold: no control characters but tabs. -/
def isHeaderValue (value : String) : Bool :=
  value.toUTF8.toList.all fun b => b == 9 || (32 ≤ b && b != 127)

def trimSlashes (text : String) : String :=
  String.ofList (text.toList.reverse.dropWhile (· == '/')).reverse

structure Sent where
  host : String
  portNumber : Nat
  request : Request

def Invocation.url? (i : Invocation) : Option Url :=
  Url.parse? (trimSlashes i.url ++ i.command.path)

def Invocation.sent? (i : Invocation) : Option Sent := do
  let authorization := "Bearer " ++ i.key
  let url ← i.url?
  if isHeaderValue authorization && url.text.utf8ByteSize ≤ Url.longest then
    some ⟨url.host, url.portNumber,
      { method := i.command.method, target := url.target
        authorization := some authorization }⟩
  else none

structure Outcome where
  request : Option Request := none
  report : Report

def run (args : List String) (environment : String → Option String)
    (network : Sent → Option Reply) : Outcome :=
  match Invocation.parse args environment with
  | .error .help => { report := { exitCode := 0 } }
  | .error .usage => { report := { exitCode := 2 } }
  | .ok invocation =>
      match invocation.sent? with
      | none => { report := { exitCode := 1 } }
      | some sent =>
          match network sent with
          | none => { report := { exitCode := 1 } }
          | some reply => { request := some sent.request, report := reply.report }

end Tollgate.Cli
