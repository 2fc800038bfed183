import RouterMenu.Gateway.Connection
import RouterMenu.Gateway.Device

/-!
# Sessions

A session holds at most one connection to its device. The connection is opened, and its user
logged in, by the first call that finds none; it is reused by every later call and dropped as soon
as one of them fails for a reason that leaves it in doubt, or is abandoned before its end. Nothing
is tried twice.

A call is a machine driven by what happens to it from outside. While it runs it owns the
connection, and the slot of the session is empty: only a call that has read its answer to the end
puts the connection back. So what a later call reads was sent after that answer.
-/

namespace RouterMenu

/-- What is known of the connection of a session. -/
inductive Status where
  | unconnected
  | connecting
  | connected
  /-- The last attempt to connect failed. The next call tries again. -/
  | failed
deriving DecidableEq, Repr

/-- An open connection, numbered by the attempt that opened it. -/
structure Live where
  id : Nat
  connection : Connection := {}
deriving DecidableEq, Repr

/-- What a session has done that others can notice. -/
inductive Deed where
  | published (status : Status)
  | dialed (id : Nat)
  | wrote (id : Nat) (bytes : List UInt8)
  | read (id : Nat) (bytes : List UInt8)
  | dropped (id : Nat)
deriving DecidableEq, Repr

/-- The state of a session between calls, and within one. -/
structure Session where
  slot? : Option Live := none
  status : Status := .unconnected
  /-- How often the device has been dialed. -/
  dials : Nat := 0
  /-- All deeds, latest first. -/
  deeds : List Deed := []
deriving DecidableEq, Repr

/-- Why dialing a device fails. -/
inductive DialFault where
  | unreachable (reason : String)
  | insecure (reason : String)
  | broken (reason : String)
  | elapsed
deriving DecidableEq, Repr

/-- The failure of a call whose device could not be dialed. -/
def DialFault.error (d : Device) : DialFault → GatewayError
  | .unreachable reason => .connect d.endpoint.text reason
  | .insecure reason => .tls reason
  | .broken reason => .stream (.reported reason)
  | .elapsed => .timeout d.seconds

/-- What happens to a call from outside. -/
inductive Stimulus where
  /-- The device was reached. -/
  | opened
  | unopened (fault : DialFault)
  /-- Something happened to the stream. -/
  | stream (event : StreamEvent)
  /-- Nobody waits for the call any more. -/
  | abandoned
deriving DecidableEq, Repr

/-- Where a call stands. -/
inductive Call where
  | dialing (id : Nat) (command : Wire.Command)
  /-- The user is being logged in; the command comes next. -/
  | entering (live : Live) (login : Exchange) (command : Wire.Command)
  | running (live : Live) (exchange : Exchange)
  | done (result : Except GatewayError Wire.Reply)
  | abandoned

/-- What a call waits for. -/
inductive Want where
  | dial (id : Nat)
  | write (id : Nat) (bytes : List UInt8)
  | read (id : Nat)
  | nothing
deriving DecidableEq, Repr

namespace Session

/-- Notes a deed. -/
def note (s : Session) (d : Deed) : Session := { s with deeds := d :: s.deeds }

/-- Makes a status known, be it the one that is known already. -/
def publish (s : Session) (status : Status) : Session :=
  { s with status, deeds := .published status :: s.deeds }

/-- Empties the slot. -/
def release (s : Session) : Session :=
  match s.slot? with
  | some live => { s with slot? := none, deeds := .dropped live.id :: s.deeds }
  | none => s

/-- Drops the connection, if there is one. -/
def close (s : Session) : Session := s.release.publish .unconnected

/-- Whether a result says that the answer was read to its end. -/
def isAnswered : Except GatewayError Wire.Reply → Bool
  | .ok _ => true
  | .error e => !e.isTransport

/-- Ends a call whose exchange is over: the connection goes back into the slot if it can still be
trusted, and is dropped if not. -/
def settle (s : Session) (live : Live) : Exchange → Session × Call
  | .done result =>
    if isAnswered result then ({ s with slot? := some live }, .done result)
    else ((s.note (.dropped live.id)).publish .unconnected, .done result)
  | x => (s, .running live x)

/-- Begins the exchange of a command on a connection. -/
def use (s : Session) (live : Live) (command : Wire.Command) : Session × Call :=
  let (connection, x) := Exchange.start live.connection command
  s.settle { live with connection } x

/-- Goes on with a call whose login is over. -/
def enter (s : Session) (live : Live) (command : Wire.Command) : Exchange → Session × Call
  | .done result =>
    match Login.outcome result with
    | .ok () => (s.publish .connected).use live command
    | .error e => ((s.note (.dropped live.id)).publish .failed, .done (.error e))
  | x => (s, .entering live x command)

/-- Begins a call. -/
def begin (s : Session) (command : Wire.Command) : Session × Call :=
  match s.slot? with
  | some live => { s with slot? := none }.use live command
  | none =>
    let s := s.publish .connecting
    ({ s with dials := s.dials + 1, deeds := .dialed s.dials :: s.deeds }, .dialing s.dials command)

/-- Notes the bytes that an event carries. -/
def traffic (s : Session) (live : Live) (x : Exchange) (event : StreamEvent) : Session :=
  match x, event with
  | .receiving _, .delivered bytes => s.note (.read live.id bytes)
  | x, .took n => s.note (.wrote live.id (x.written live.connection (.took n)))
  | _, _ => s

/-- What a stimulus does to a call to a device. One that the call does not wait for leaves it as
it is. -/
def step (d : Device) (s : Session) : Call → Stimulus → Session × Call
  | .done result, _ => (s, .done result)
  | .abandoned, _ => (s, .abandoned)
  | .dialing .., .abandoned => (s.publish .unconnected, .abandoned)
  | .entering live .., .abandoned | .running live _, .abandoned =>
    ((s.note (.dropped live.id)).publish .unconnected, .abandoned)
  | .dialing id command, .opened =>
    let (connection, x) := Exchange.start {} (Login.command d.credentials)
    s.enter ⟨id, connection⟩ command x
  | .dialing .., .unopened fault => (s.publish .failed, .done (.error (fault.error d)))
  | .entering live x command, .stream event =>
    let (connection, y) := x.step d.seconds live.connection event
    (s.traffic live x event).enter { live with connection } command y
  | .running live x, .stream event =>
    let (connection, y) := x.step d.seconds live.connection event
    (s.traffic live x event).settle { live with connection } y
  | call, _ => (s, call)

end Session

namespace Call

/-- What an exchange on a connection waits for. -/
def wantOn (live : Live) : Exchange → Want
  | .clearing _ | .sending => .write live.id live.connection.outbox
  | .receiving _ => .read live.id
  | .done _ => .nothing

/-- What the call waits for. -/
def want : Call → Want
  | .dialing id _ => .dial id
  | .entering live x _ | .running live x => wantOn live x
  | .done _ | .abandoned => .nothing

/-- What happens to the call when its time is up. -/
def deadline : Call → Stimulus
  | .dialing .. => .unopened .elapsed
  | _ => .stream .elapsed

/-- The result of the call, once it has one. -/
def result? : Call → Option (Except GatewayError Wire.Reply)
  | .done result => some result
  | _ => none

end Call

end RouterMenu
