import Tollgate.Shutdown

/-!
A broadcast channel, and shutdown as a flag in front of one. Only the last
messages are kept, and each receiver has its own place among the messages: one
that falls behind what is kept is told how many it has missed.
-/

namespace Tollgate

structure Broadcast where
  capacity : Nat
  sent : Nat := 0
  /-- The receivers by name; how many messages lie behind each. -/
  receivers : Assoc Nat := .empty

inductive Receipt where
  | empty
  | message (number : Nat)
  | lagged (missed : Nat)
deriving DecidableEq

namespace Broadcast

/-- A new receiver, which gets what is sent from now on. -/
def subscribe (c : Broadcast) (id : String) : Broadcast :=
  { c with receivers := c.receivers.insert id c.sent }

def unsubscribe (c : Broadcast) (id : String) : Broadcast :=
  { c with receivers := c.receivers.erase id }

/-- Sends a message. A channel without receivers does not take it. -/
def send (c : Broadcast) : Broadcast :=
  if c.receivers.isEmpty then c else { c with sent := c.sent + 1 }

/-- Takes the receiver's next message. When it is no longer kept, the receiver
goes on with the oldest one that is. -/
def tryReceive (c : Broadcast) (id : String) : Receipt × Broadcast :=
  match c.receivers.get? id with
  | none => (.empty, c)
  | some next =>
      if next = c.sent then (.empty, c)
      else if next + c.capacity < c.sent then
        let oldest := c.sent - c.capacity
        (.lagged (oldest - next),
          { c with receivers := c.receivers.insert id oldest })
      else
        (.message next, { c with receivers := c.receivers.insert id (next + 1) })

theorem tryReceive_of_kept {c : Broadcast} {id : String} {next : Nat}
    (place : c.receivers.get? id = some next) (ahead : next < c.sent)
    (kept : c.sent ≤ next + c.capacity) :
    c.tryReceive id =
      (.message next,
        { c with receivers := c.receivers.insert id (next + 1) }) := by
  rw [tryReceive, place]
  simp only [if_neg (Nat.ne_of_lt ahead), if_neg (Nat.not_lt.mpr kept)]

theorem tryReceive_of_caughtUp {c : Broadcast} {id : String}
    (place : c.receivers.get? id = some c.sent) :
    c.tryReceive id = (.empty, c) := by
  rw [tryReceive, place]
  simp only [if_true]

theorem tryReceive_of_absent {c : Broadcast} {id : String}
    (absent : c.receivers.get? id = none) : c.tryReceive id = (.empty, c) := by
  rw [tryReceive, absent]

/-- A second message takes the place of the first: who has not looked in between
misses it. -/
example :
    let c : Broadcast := { capacity := 1 }
    (((c.subscribe "slow").send.send).tryReceive "slow").1 = .lagged 1 := rfl

end Broadcast

/-- A flag, set by the first one who triggers, and a channel that keeps one
message. -/
structure BroadcastShutdown where
  triggered : Bool := false
  channel : Broadcast := { capacity := 1 }

namespace BroadcastShutdown

def trigger (s : BroadcastShutdown) : BroadcastShutdown :=
  if s.triggered then s
  else { triggered := true, channel := s.channel.send }

def perform (s : BroadcastShutdown) :
    ShutdownOp → Receipt × BroadcastShutdown
  | .subscribe id => (.empty, { s with channel := s.channel.subscribe id })
  | .unsubscribe id => (.empty, { s with channel := s.channel.unsubscribe id })
  | .trigger => (.empty, s.trigger)
  | .tryReceive id =>
      let (receipt, channel) := s.channel.tryReceive id
      (receipt, { s with channel })

def run (s : BroadcastShutdown) :
    List ShutdownOp → List Receipt × BroadcastShutdown
  | [] => ([], s)
  | op :: rest =>
      let (receipt, s) := s.perform op
      let (receipts, s) := s.run rest
      (receipt :: receipts, s)

end BroadcastShutdown

end Tollgate
