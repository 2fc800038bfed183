import RouterMenu.Record.DecodeError
import RouterMenu.Wire.WordLength

/-!
# Why a call to a device fails

The causes fall into classes, and the class decides what becomes of the connection: after a
fault of the transport it can no longer be trusted, while a device that rejects a command has
answered it in full.
-/

namespace RouterMenu

/-- A rejection by the device. -/
structure Trap where
  message : String
  /-- The class of the rejection, if the device names one below 256. -/
  category? : Option Nat := none
deriving DecidableEq, Repr

/-- A breach of the rules of the conversation. -/
inductive ProtocolFault where
  /-- Bytes that are no frame, or a word that fits into none. -/
  | frame (e : Wire.FrameError)
  /-- The stream ended before the end of the answer. -/
  | closedEarly
  /-- A sentence of no known kind. -/
  | unexpectedWord (word : String)
  /-- A fault known by its description only. -/
  | reported (text : String)
deriving DecidableEq, Repr

/-- What is reported about it. -/
def ProtocolFault.message : ProtocolFault → String
  | .frame e => e.message
  | .closedEarly => "connection closed before !done"
  | .unexpectedWord word => "unexpected reply word " ++ Text.quoted word
  | .reported text => text

/-- A failure of the stream itself. -/
inductive StreamFault where
  /-- The stream ended within a sentence. -/
  | unfinished
  /-- What the operating system says. -/
  | reported (text : String)
deriving DecidableEq, Repr

/-- What is reported about it. -/
def StreamFault.message : StreamFault → String
  | .unfinished => "bytes remaining on stream"
  | .reported text => text

/-- Why a call fails. -/
inductive GatewayError where
  /-- The login was rejected. -/
  | authentication (message : String)
  /-- No stream to the device could be opened. -/
  | connect (address reason : String)
  /-- The stream could not be made secure. -/
  | tls (reason : String)
  /-- An open stream failed. -/
  | stream (fault : StreamFault)
  /-- The device did not answer within the given number of seconds. -/
  | timeout (seconds : Nat)
  /-- What the device sent is no answer. -/
  | protocol (fault : ProtocolFault)
  /-- The device rejected the command. -/
  | device (trap : Trap)
  /-- The device ended the conversation. -/
  | fatal (reason : String)
  /-- The answer is no record. -/
  | decode (e : DecodeError)
deriving DecidableEq, Repr

namespace GatewayError

/-- What is reported about it. -/
def message : GatewayError → String
  | .authentication message => "Authentication failed: " ++ message
  | .connect address reason => "Cannot connect to " ++ address ++ ": " ++ reason
  | .tls reason => "TLS error: " ++ reason
  | .stream fault => "I/O error: " ++ fault.message
  | .timeout seconds => "Request timed out after " ++ String.ofList (Text.ofNat seconds) ++ "s"
  | .protocol fault => "Protocol error: " ++ fault.message
  | .device trap => "Device error: " ++ trap.message
  | .fatal reason => "Device closed the session: " ++ reason
  | .decode e => e.message

/-- Whether the connection can no longer be trusted. -/
def isTransport : GatewayError → Bool
  | .connect .. | .tls _ | .stream _ | .timeout _ | .protocol _ | .fatal _ => true
  | .authentication _ | .device _ | .decode _ => false

/-- Whether the device rejected the command. -/
def isDevice : GatewayError → Bool
  | .device _ => true
  | _ => false

/-- Whether the login was rejected. -/
def isAuthentication : GatewayError → Bool
  | .authentication _ => true
  | _ => false

end GatewayError

end RouterMenu
