import RouterMenu.Gateway.Connection

/-!
# Conversations with a tape

A tape is a stream that plays back what it holds whatever is written to it: one chunk for each
read, and then an end of its own kind, over and over. Conversations with it show how a connection
behaves from one command to the next.
-/

namespace RouterMenu

/-- How a tape goes on behind its chunks. -/
inductive TapeEnd where
  | ended
  | silent
  | failed (reason : String)
deriving DecidableEq, Repr

/-- A stream that plays back what it holds. -/
structure Tape where
  chunks : List (List UInt8)
  ending : TapeEnd := .ended
  /-- Why nothing can be written, if nothing can. -/
  refuses? : Option String := none
deriving DecidableEq, Repr

namespace Tape

/-- What the tape does when bytes are waiting to be written. -/
def onWrite (t : Tape) (c : Connection) : StreamEvent :=
  match t.refuses? with
  | some reason => .refused reason
  | none => .took c.outbox.length

/-- What the tape does when it is read from. -/
def onRead (t : Tape) : StreamEvent × Tape :=
  match t.chunks with
  | chunk :: rest => (.delivered chunk, { t with chunks := rest })
  | [] =>
    match t.ending with
    | .ended => (.ended, t)
    | .silent => (.elapsed, t)
    | .failed reason => (.failed reason, t)

/-- What the tape does to an exchange, and the tape afterwards. -/
def react (t : Tape) (c : Connection) : Exchange → StreamEvent × Tape
  | .receiving _ => t.onRead
  | _ => (t.onWrite c, t)

end Tape

/-- What came of a command: the connection and the tape afterwards, and what was written. -/
structure Conversation where
  connection : Connection
  tape : Tape
  written : List UInt8
  result : Except GatewayError Wire.Reply

namespace Conversation

/-- Plays the tape to an exchange until it is over. -/
def play (seconds : Nat) (t : Tape) (c : Connection) (sent : List UInt8) :
    Exchange → Nat → Conversation
  | .done result, _ => ⟨c, t, sent, result⟩
  | _, 0 => ⟨c, t, sent, .error (.timeout seconds)⟩
  | x, fuel + 1 =>
    let (event, t) := t.react c x
    let sent := sent ++ x.written c event
    let (c, x) := x.step seconds c event
    play seconds t c sent x fuel

/-- Sends a command over a connection to a tape. Two events at most write, one ends the tape, and
every other one uses a chunk up. -/
def run (seconds : Nat) (t : Tape) (c : Connection) (command : Wire.Command) : Conversation :=
  let (c, x) := Exchange.start c command
  play seconds t c [] x (t.chunks.length + 4)

end Conversation

end RouterMenu
