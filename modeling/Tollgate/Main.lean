import Tollgate.Admin.Wire
import Tollgate.Cli.Manage
import Tollgate.Service.Launch

/-!
The two programs. Standard input and output are the connection, as under a
server that hands connections out: requests and responses go over it as lines.
What the user is to see goes to standard error.

Without a first argument `manage` the gate runs: it answers the requests that
come in, and stops when they end. With it, one request is sent, and the answer
reported.
-/

namespace Tollgate.Program

def tell (text : String) : IO Unit := do
  (← IO.getStderr).putStr text

def showLine : LogLine → IO Unit
  | .text line => tell (line ++ "\n")
  | .json line => tell (line.compact ++ "\n")

def send (line : String) : IO Unit := do
  let output ← IO.getStdout
  output.putStrLn line
  output.flush

def receive? : IO (Option String) := do
  let line ← (← IO.getStdin).getLine
  return if line.isEmpty then none else some (line.trimAsciiEnd.toString)

/-! The gate -/

def contentOf (path : String) : IO FileContent := do
  try
    return .bytes (← IO.FS.readBinFile path)
  catch
    | .noFileOrDirectory .. => return .missing
    | _ => return .directory

/-- Answers what comes in. `shown` lines of the log have been shown. -/
partial def answerRequests (s : Service) (start shown : Nat) :
    IO (Service × Nat) := do
  match ← receive? with
  | none => return (s, shown)
  | some line =>
      let now := (← IO.monoNanosNow) - start
      let gate := s.gate.advance (now - s.gate.now)
      let (response, s) := ({ s with gate } : Service).request (.ofLine line)
      (s.lines.drop shown).forM showLine
      send response.line
      answerRequests s start s.lines.length

def runService (s : Service) : IO UInt32 := do
  s.lines.forM showLine
  let (s, shown) ← answerRequests s (← IO.monoNanosNow) s.lines.length
  ((s.stop .terminate).lines.drop shown).forM showLine
  return 0

def gate (args : List String) : IO UInt32 := do
  let content ← match Service.settingsPath args with
    | .ok path => contentOf path
    | .error _ => pure .missing
  let filter ← IO.getEnv "RUST_LOG"
  let host : Host := {
    environment := fun name => if name = "RUST_LOG" then filter else none
    file := fun _ => content
    addresses := fun name =>
      if name = "localhost" then [.v4 [127, 0, 0, 1]] else []
    listenFault := fun address =>
      if address.ip = .v4 [127, 0, 0, 1] then none
      else some "Cannot assign requested address (os error 99)" }
  match Service.launch host args with
  | .ended code lines =>
      lines.forM showLine
      return UInt32.ofNat code
  | .running s => runService s

/-! The management program -/

/-- Reads an answer: the status, a blank, and the body. -/
def replyOfLine (line : String) : Cli.Reply :=
  let status := line.toList.takeWhile Char.isDigit
  { status := digitsValue 10 status
    body := String.ofList (line.toList.drop (status.length + 1)) }

def exchange (request : Request) : IO (Option Cli.Reply) := do
  send request.line
  return (← receive?).map replyOfLine

def report (r : Cli.Report) : IO UInt32 := do
  tell r.output
  tell (r.complaint.getD "")
  return UInt32.ofNat r.exitCode

def manage (args : List String) : IO UInt32 := do
  let url ← IO.getEnv "GATE_ADMIN_URL"
  let key ← IO.getEnv "GATE_ADMIN_KEY"
  let environment (name : String) : Option String :=
    if name = "GATE_ADMIN_URL" then url
    else if name = "GATE_ADMIN_KEY" then key
    else none
  let reply ← match Cli.Invocation.parse args environment with
    | .ok invocation =>
        match invocation.sent? with
        | some sent => exchange sent.request
        | none => pure none
    | .error _ => pure none
  report (Cli.run args environment fun _ => reply).report

end Tollgate.Program

def main (args : List String) : IO UInt32 :=
  match args with
  | "manage" :: rest => Tollgate.Program.manage rest
  | _ => Tollgate.Program.gate args
