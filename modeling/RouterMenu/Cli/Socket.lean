import RouterMenu.Gateway.Network
import RouterMenu.Trust.Authorities
import Std.Async.DNS
import Std.Async.TCP
import Std.Async.Timer

/-!
# Streams over TCP

What a call waits for, done by the operating system. Streams are plain: where a device asks for a
secured one, the call is told that there is none to be had.
-/

namespace RouterMenu.Cli

open Std.Async

/-- The number and the words of an error of the operating system. Some are numbered downwards from
zero. -/
def errorParts : IO.Error → Nat × String
  | .alreadyExists _ code text | .interrupted _ code text | .noFileOrDirectory _ code text
  | .invalidArgument _ code text | .permissionDenied _ code text
  | .resourceExhausted _ code text | .inappropriateType _ code text | .noSuchThing _ code text
  | .otherError code text | .resourceBusy code text | .resourceVanished code text
  | .unsupportedOperation code text | .hardwareFault code text
  | .unsatisfiedConstraints code text | .illegalOperation code text | .protocolError code text
  | .timeExpired code text => (code.toInt32.toInt.natAbs, text)
  | .unexpectedEof => (0, "unexpected end of file")
  | .userError text => (0, text)

/-- What is reported about an error of the operating system. -/
def errorText (e : IO.Error) : String :=
  let (code, text) := errorParts e
  if code = 0 then text
  else text.capitalize ++ " (os error " ++ String.ofList (Text.ofNat code) ++ ")"

/-- The open streams, by the numbers of their connections. -/
abbrev Streams := IO.Ref (List (Nat × TCP.Socket.Client))

/-- How many bytes are read at once. -/
def readSize : UInt64 := 8192

/-- An address on the network. -/
def socketAddress (port : Nat) : Std.Net.IPAddr → Std.Net.SocketAddress
  | .v4 addr => .v4 { addr, port := port.toUInt16 }
  | .v6 addr => .v6 { addr, port := port.toUInt16 }

/-- Connects to the first address that can be connected to. -/
def connectFirst (port : Nat) (last : String) :
    List Std.Net.IPAddr → Async (Except String TCP.Socket.Client)
  | [] => return .error last
  | a :: rest => do
    let client ← TCP.Socket.Client.mk
    try
      client.connect (socketAddress port a)
      client.noDelay
      return .ok client
    catch e => connectFirst port (errorText e) rest

/-- What is said where a secured stream is asked for. -/
def noSecureStreams : String := "secured streams are not supported"

/-- What becomes of an attempt to secure a stream. -/
def secured (t : Trust) : Async Stimulus := do
  let path := match t with
    | .authorities path => path
    | _ => ""
  let file ← try pure (Except.ok (← IO.FS.readBinFile path).toList)
    catch e => pure (Except.error (errorText e))
  match Trust.settle (fun _ => file) t with
  | .error (.tls reason) => return .unopened (.insecure reason)
  | _ => return .unopened (.insecure noSecureStreams)

/-- Dials a device. -/
def dial (streams : Streams) (d : Device) (id : Nat) : Async Stimulus := do
  let e := d.endpoint
  let found ← try DNS.getAddrInfo e.host (String.ofList (Text.ofNat e.port))
    catch e => return .unopened (.unreachable (errorText e))
  match ← connectFirst e.port "no address found" found.toList with
  | .error reason => return .unopened (.unreachable reason)
  | .ok client =>
    match d.trust? with
    | some t => secured t
    | none =>
      streams.modify fun l => (id, client) :: l
      return .opened

/-- Does what a call waits for. -/
def serve (streams : Streams) (d : Device) : Want → Async Stimulus
  | .nothing => return .abandoned
  | .dial id => dial streams d id
  | .write id bytes => do
    match (← streams.get).lookup id with
    | none => return .stream (.refused "no such stream")
    | some client =>
      try
        client.send (ByteArray.mk bytes.toArray)
        return .stream (.took bytes.length)
      catch e => return .stream (.refused (errorText e))
  | .read id => do
    match (← streams.get).lookup id with
    | none => return .stream .ended
    | some client =>
      try
        match ← client.recv? readSize with
        | some bytes => return .stream (.delivered bytes.toList)
        | none => return .stream .ended
      catch e => return .stream (.failed (errorText e))

/-- Does what a call waits for, unless that takes longer than so many milliseconds. -/
def serveWithin (streams : Streams) (d : Device) (c : Call) (time : Nat) : IO Stimulus := do
  have : Inhabited Stimulus := ⟨.abandoned⟩
  let expired : Async Stimulus := do
    sleep (.ofNat time)
    return c.deadline
  (Async.race (serve streams d c.want) expired).block

/-- Whether a call goes on to something whose time is counted anew. -/
def startsAnew : Want → Want → Bool
  | .write .., .write .. => false
  | _, .write .. => true
  | _, _ => false

/-- Follows a call until it waits for nothing; `due` is when its time is up. -/
partial def follow (streams : Streams) (d : Device) (due : Nat) (s : Session) (c : Call) :
    IO (Session × Call) := do
  if c.want = .nothing then return (s, c)
  let stimulus ← serveWithin streams d c (due - (← IO.monoMsNow))
  let (s, next) := s.step d c stimulus
  let now ← IO.monoMsNow
  follow streams d (if startsAnew c.want next.want then now + d.timeout else due) s next

/-- Sends a command and waits for the answer. -/
def callDevice (streams : Streams) (d : Device) (s : Session) (command : Wire.Command) :
    IO (Except GatewayError Wire.Reply × Session) := do
  let (s, c) := s.begin command
  let (s, c) ← follow streams d ((← IO.monoMsNow) + d.timeout) s c
  return (c.result?.getD (.error (.timeout d.seconds)), s)

/-- Holds a dialogue with a device. -/
def converse {α : Type} (streams : Streams) (d : Device) (s : Session) : Dialogue α → IO α
  | .done result => return result
  | .send command next => do
    let (outcome, s) ← callDevice streams d s command
    converse streams d s (next outcome)

end RouterMenu.Cli
