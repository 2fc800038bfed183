import RouterMenu.Gateway.Inbox
import RouterMenu.Gateway.Answer

/-!
# One command over one connection

An exchange is a machine that is driven by what happens to the stream. Its command is framed into
the outbox; once the stream has taken all of it, sentences are read until the answer is over. A
word too long for a frame ends the exchange before anything is written, although the words before
it stay in the outbox.
-/

namespace RouterMenu

/-- Both sides of an open stream. -/
structure Connection where
  inbox : Inbox := {}
  /-- Bytes the stream has yet to take. -/
  outbox : List UInt8 := []
deriving DecidableEq, Repr

/-- What happens to a stream. -/
inductive StreamEvent where
  /-- It took that many bytes. -/
  | took (count : Nat)
  /-- It took none and never will. -/
  | refused (reason : String)
  /-- Bytes arrived. -/
  | delivered (bytes : List UInt8)
  /-- It ended. -/
  | ended
  /-- Reading from it failed. -/
  | failed (reason : String)
  /-- Nothing, for as long as a command may take. -/
  | elapsed
deriving DecidableEq, Repr

/-- Where an exchange stands. -/
inductive Exchange where
  /-- The outbox is too full to take the command; it is written out first. -/
  | clearing (c : Wire.Command)
  /-- The outbox holds the command. -/
  | sending
  /-- The command is out, and this much of the answer is in. -/
  | receiving (a : Answer)
  | done (result : Except GatewayError Wire.Reply)

namespace Exchange

/-- Reads sentences from what has arrived until the answer is over or more is needed. -/
def pump (i : Inbox) (a : Answer) : Inbox × Exchange :=
  match _h : i.next with
  | (j, .starved) => (j, .receiving a)
  | (j, .finished) => (j, .done (.error (.protocol .closedEarly)))
  | (j, .fault e) => (j, .done (.error e))
  | (j, .sentence words) =>
    match a.absorb words with
    | .more a => pump j a
    | .done result => (j, .done result)
termination_by i.buffer.length
decreasing_by exact Inbox.next_lt _h

/-- Goes on with the answer after something happened to the inbox. -/
def resume (c : Connection) (i : Inbox) (a : Answer) : Connection × Exchange :=
  let (i, x) := pump i a
  ({ c with inbox := i }, x)

/-- Frames the command into the outbox. -/
def frame (c : Connection) (command : Wire.Command) : Connection × Exchange :=
  let written := Wire.Framing.write command.words
  let c := { c with outbox := c.outbox ++ written.bytes }
  match written.fault with
  | none => (c, .sending)
  | some e => (c, .done (.error (.protocol (.frame e))))

/-- From how many bytes on the outbox is written out before anything is added. -/
def fullOutbox : Nat := 8192

/-- Begins an exchange. -/
def start (c : Connection) (command : Wire.Command) : Connection × Exchange :=
  if fullOutbox ≤ c.outbox.length then (c, .clearing command) else frame c command

/-- The bytes an event writes. -/
def written (c : Connection) : Exchange → StreamEvent → List UInt8
  | .clearing _, .took n | .sending, .took n => c.outbox.take n
  | _, _ => []

/-- What an event does to an exchange of which the time is bounded by so many seconds. An event
that the exchange does not wait for leaves it as it is. -/
def step (seconds : Nat) (c : Connection) : Exchange → StreamEvent → Connection × Exchange
  | .done result, _ => (c, .done result)
  | _, .elapsed => (c, .done (.error (.timeout seconds)))
  | .clearing command, .took n =>
    let c := { c with outbox := c.outbox.drop n }
    if c.outbox.isEmpty then frame c command else (c, .clearing command)
  | .sending, .took n =>
    let c := { c with outbox := c.outbox.drop n }
    if c.outbox.isEmpty then resume c c.inbox {} else (c, .sending)
  | .clearing _, .refused reason | .sending, .refused reason =>
    (c, .done (.error (.stream (.reported reason))))
  | .receiving a, .delivered bytes => resume c (c.inbox.receive bytes) a
  | .receiving a, .ended => resume c c.inbox.close a
  | .receiving _, .failed reason =>
    ({ c with inbox := c.inbox.stop }, .done (.error (.stream (.reported reason))))
  | x, _ => (c, x)

end Exchange

end RouterMenu
