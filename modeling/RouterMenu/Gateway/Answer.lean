import RouterMenu.Gateway.Error
import RouterMenu.Wire.Sentence
import RouterMenu.Wire.Command

/-!
# Answers of a device

A device answers a command with sentences of which the first word tells the kind: rows, perhaps a
trap, and an end. A trap does not end the answer; it is remembered, the first one only, and
reported when the end has come. A fatal sentence, or one of no known kind, ends the conversation
on the spot.
-/

namespace RouterMenu

/-- The part of an answer that has been read. -/
structure Answer where
  /-- The rows, latest first. -/
  rows : List Wire.Sentence := []
  trap? : Option Trap := none
deriving DecidableEq, Repr

/-- How an answer goes on after a sentence. -/
inductive Verdict where
  /-- More sentences are to come. -/
  | more (a : Answer)
  /-- This was the last one. -/
  | done (result : Except GatewayError Wire.Reply)

namespace Answer

/-- The trap a sentence reports. -/
def trapOf (s : Wire.Sentence) : Trap where
  message := (s.get? "message").getD "unknown error"
  category? := (s.get? "category").bind fun text => Text.natUpTo? 255 text.toList

/-- What a finished answer amounts to. -/
def finish (a : Answer) (done : Wire.Sentence) : Except GatewayError Wire.Reply :=
  match a.trap? with
  | some trap => .error (.device trap)
  | none => .ok { rows := a.rows.reverse, done }

/-- Reads one more sentence. -/
def absorb (a : Answer) (words : List String) : Verdict :=
  match words with
  | [] => .more a
  | kind :: attributes =>
    let sentence := Wire.Sentence.ofWords attributes
    if kind = "!re" then .more { a with rows := sentence :: a.rows }
    else if kind = "!done" then .done (a.finish sentence)
    else if kind = "!trap" then .more { a with trap? := a.trap?.or (some (trapOf sentence)) }
    else if kind = "!fatal" then .done (.error (.fatal (" ".intercalate attributes)))
    else if kind = "!empty" then .more a
    else .done (.error (.protocol (.unexpectedWord kind)))

end Answer

/-- A user of a device and the password. -/
structure Credentials where
  username : String
  password : String
deriving DecidableEq, Repr

namespace Login

/-- The command that logs a user in. -/
def command (c : Credentials) : Wire.Command :=
  ((Wire.Command.mk "/login" []).attr "name" c.username).attr "password" c.password

/-- Why a device that wants a challenge answered is refused. -/
def challenge : String :=
  "device requested the legacy challenge login, which is not supported"

/-- What the outcome of a login command says about the login. -/
def outcome : Except GatewayError Wire.Reply → Except GatewayError Unit
  | .ok reply => if reply.ret?.isSome then .error (.authentication challenge) else .ok ()
  | .error (.device trap) => .error (.authentication trap.message)
  | .error e => .error e

end Login

end RouterMenu
