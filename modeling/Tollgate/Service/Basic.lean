import Tollgate.Admin.Handler
import Tollgate.Admin.Wire
import Tollgate.Lifecycle
import Tollgate.Service.Address
import Tollgate.Telemetry.Exposition
import Tollgate.Telemetry.Filter
import Tollgate.Telemetry.Line
import Tollgate.Watch

/-!
The gate program while it runs: requests are answered, a changed settings file
is taken up, and a stop signal ends it. Everything it does is logged.
-/

namespace Tollgate

structure Logging where
  filter : LogFilter
  format : LogFormat

namespace Logging

/-- None, if the filter cannot be made out. -/
def ofSettings? (s : ObservabilitySettings) (override : Option String) :
    Option Logging :=
  (LogFilter.ofLevel? s.logLevel override).map fun filter =>
    { filter, format := if s.jsonLogs then .json else .text }

def lines (l : Logging) (events : List LogEvent) : List LogLine :=
  (events.filter l.filter.allows).map (·.line l.format)

end Logging

inductive StopSignal where
  | interrupt
  | terminate
deriving DecidableEq

def StopSignal.name : StopSignal → String
  | interrupt => "SIGINT"
  | terminate => "SIGTERM"

structure WatchedFile where
  path : String
  content : FileContent

structure Service where
  logging : Logging
  gate : Gate
  lifecycle : Lifecycle := .started
  /-- None, if there was no settings file to begin with. -/
  file : Option WatchedFile
  /-- Where the admin interface listens, if it is enabled. -/
  admin : Option SocketAddress
  /-- Where the metrics page is, if there is one. -/
  metrics : Option SocketAddress

namespace Service

def log (s : Service) (events : List LogEvent) : Service :=
  { s with gate := s.gate.tell (events.map .log) }

def lines (s : Service) : List LogLine :=
  s.logging.lines (Telemetry.events s.gate.telemetry.signals)

def request (s : Service) (r : Request) : Response × Service :=
  match r.received? with
  | none => ({ status := 400 }, s)
  | some r =>
      let (response, gate) := s.gate.serve r
      (response.sentFor r, { s with gate })

def reload (s : Service) (settings : Settings) : Service :=
  { s with gate := s.gate.reload settings }.log [.configurationReloaded]

/-- The settings file changes. Answers whether its settings were taken up. -/
def change (s : Service) (change : FileChange) : Bool × Service :=
  match s.file with
  | none => (false, s)
  | some file =>
      let content := change.apply file.content
      let s := { s with file := some { file with content } }
      match reread file.path content with
      | (.ok settings, event) => (true, (s.log [event]).reload settings)
      | (.error _, event) => (false, s.log [event])

def metricsPage (s : Service) : List String :=
  s.gate.telemetry.exposition

def drain (s : Service) : Service :=
  let (sent, lifecycle) := s.lifecycle.stepHandler
  let drained : List LogEvent :=
    if s.admin.isSome then [.adminDraining, .adminStopped] else []
  ({ s with lifecycle := lifecycle.stepMain } : Service).log (sent ++ drained)

def stop (s : Service) (signal : StopSignal) : Service :=
  ((s.log [.signalReceived signal.name]).drain).log [.shutdownComplete]

end Service

end Tollgate
