import Tollgate.Cli.Arguments
import Tollgate.Service.Basic

/-!
Starting the gate program: the command line names a settings file, the settings
say what is started, and whatever cannot be started ends the program.
-/

namespace Tollgate

structure Host where
  environment : String → Option String
  file : String → FileContent
  addresses : String → List IpAddress
  /-- Why an address cannot be listened on, if it cannot. -/
  listenFault : SocketAddress → Option String

namespace Host

def named (h : Host) (name : List Char) (portNumber : Nat) :
    List SocketAddress :=
  match SocketAddress.ofHost? name portNumber with
  | some address => [address]
  | none => (h.addresses (String.ofList name)).map fun ip => { ip, portNumber }

/-- The addresses that a text such as `localhost:8081` means. -/
def resolve (h : Host) (text : String) : List SocketAddress :=
  match SocketAddress.ofText? text with
  | some address => [address]
  | none =>
      match SocketAddress.splitHost text.toList with
      | none => []
      | some (name, numberText) =>
          match SocketAddress.signedPortNumber? numberText with
          | none => []
          | some portNumber => h.named name portNumber

/-- Listens on the first of the addresses that can be had beside one that is in
use. -/
def listen? (h : Host) (used : Option SocketAddress) (text : String) :
    Option SocketAddress :=
  (h.resolve text).find? fun address =>
    (h.listenFault address).isNone && !used.any address.collides

end Host

inductive Launch where
  | ended (exitCode : Nat) (lines : List LogLine)
  | running (service : Service)

namespace Service

def grammar : Cli.Grammar where
  options := [{ name := "config", short := 'c', mayBeEmpty := false }]
  commands := []

/-- Settings that are not there have their defaults. -/
def settingsOf (content : FileContent) : Except ConfigError Settings :=
  match content with
  | .missing => .ok {}
  | content => Settings.ofFile content

def startMetrics (host : Host) (s : ObservabilitySettings) :
    Option SocketAddress × List LogEvent :=
  if !s.metricsEnabled then (none, [])
  else match SocketAddress.ofText? s.metricsAddress with
    | none =>
        (none, [.metricsAddressInvalid s.metricsAddress
          "invalid socket address syntax"])
    | some address =>
        match host.listenFault address with
        | none => (some address, [.metricsStarted address.text])
        | some fault =>
            (none, [.metricsFailed address.text
              ("failed to create HTTP listener: " ++ fault)])

def makeGate (settings : Settings) (opening : List LogEvent) : Gate :=
  let ready : LogEvent := .gateReady "Memory" settings.budget.defaultLimit
    settings.budget.periodSecs settings.breaker.defaults.failMax
  (Gate.ofSettings settings).tell
    ((opening ++ [.memoryStore, ready]).map .log)

def openAdmin (host : Host) (settings : AdminSettings) (s : Service) :
    Launch :=
  if !settings.enabled then .running (s.log [.adminDisabled])
  else match host.listen? s.metrics settings.bindAddress with
    | none => .ended 1 s.lines
    | some address =>
        .running ({ s with admin := some address }.log
          [.adminStarting address.text])

/-- Starts what the settings ask for. Only the store in memory is at hand. -/
def start (host : Host) (path : String) (content : FileContent)
    (settings : Settings) (logging : Logging) : Launch :=
  let file : Option WatchedFile := match content with
    | .missing => none
    | content => some ⟨path, content⟩
  let (metrics, metricsEvents) := startMetrics host settings.observability
  let missing := if file.isNone then [.configMissing path] else []
  let opening := .starting version :: missing ++ metricsEvents
  match settings.store.backend with
  | .redis => .ended 1 (logging.lines opening)
  | .memory =>
      let gate := makeGate settings opening
      let service : Service := { logging, gate, file, admin := none, metrics }
      let watching := if file.isSome then [.watching path] else []
      openAdmin host settings.admin (service.log watching)

/-- Starts with the settings that a file holds. Without a way to log there is no
going on. -/
def startFrom (host : Host) (path : String) : Launch :=
  let content := host.file path
  match settingsOf content with
  | .error _ => .ended 1 []
  | .ok settings =>
      match Logging.ofSettings? settings.observability
          (host.environment "RUST_LOG") with
      | none => .ended 101 []
      | some logging => start host path content settings logging

def settingsPath (args : List String) : Except Cli.Halt String := do
  let parsed ← grammar.parse args
  .ok ((parsed.options.get? "config").getD "gate.toml")

def launch (host : Host) (args : List String) : Launch :=
  match settingsPath args with
  | .error .help => .ended 0 []
  | .error .usage => .ended 2 []
  | .ok path => startFrom host path

end Service

end Tollgate
