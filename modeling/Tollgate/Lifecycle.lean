import Tollgate.Shutdown

/-!
The life of the gate program as two tasks. The main task starts up step by step
and then waits for the shutdown signal; the signal handler, once the main task
has started it, may send that signal at any moment.
-/

namespace Tollgate

inductive Phase where
  | begun
  | handlerStarted
  | watching
  | listening
  | subscribed
  | waiting
  | signalled
deriving DecidableEq

inductive Task where
  | main
  | handler
deriving DecidableEq

structure Lifecycle where
  phase : Phase := .begun
  shutdown : Shutdown := {}

namespace Lifecycle

def receiver : String := "main"

/-- The next step of the main task. Its wait ends when the signal is there. -/
def stepMain (l : Lifecycle) : Lifecycle :=
  match l.phase with
  | .begun => { l with phase := .handlerStarted }
  | .handlerStarted => { l with phase := .watching }
  | .watching => { l with phase := .listening }
  | .listening =>
      { phase := .subscribed, shutdown := l.shutdown.subscribe receiver }
  | .subscribed => { l with phase := .waiting }
  | .waiting =>
      let (taken, shutdown) := l.shutdown.tryReceive receiver
      { phase := if taken then .signalled else .waiting, shutdown }
  | .signalled => l

def stepHandler (l : Lifecycle) : List LogEvent × Lifecycle :=
  if l.phase = .begun then ([], l)
  else
    let (events, shutdown) := l.shutdown.trigger
    (events, { l with shutdown })

def step (l : Lifecycle) : Task → Lifecycle
  | .main => l.stepMain
  | .handler => l.stepHandler.2

def run (l : Lifecycle) (tasks : List Task) : Lifecycle :=
  tasks.foldl step l

/-- The main task waits, the signal has been sent, and none waits for it. -/
def isStranded (l : Lifecycle) : Bool :=
  l.phase = .waiting && l.shutdown.triggered &&
    l.shutdown.receivers.get? receiver != some true

/-- The program when it has started up and nothing has stopped it yet. -/
def started : Lifecycle :=
  run {} (List.replicate 5 .main)

end Lifecycle

end Tollgate
