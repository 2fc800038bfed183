import RouterMenu.Gateway.Error

/-!
# Why an operation on a menu fails

The classes a user of the menus meets. Failures of a call are sorted into them; what happened to
the stream and what was wrong with its bytes becomes a description.
-/

namespace RouterMenu

/-- Why an operation fails. -/
inductive ClientError where
  | connectionFailed (address reason : String)
  | authenticationFailed (message : String)
  | disconnected (reason : String)
  | timeout (seconds : Nat)
  /-- There is no object of the kind with the key. -/
  | notFound (kind key : String)
  | decode (message : String)
  | rejected (trap : Trap)
  | validationFailed (message : String)
  | config (message : String)
  | internal (message : String)
deriving DecidableEq, Repr

namespace ClientError

/-- What is reported about it. -/
def message : ClientError → String
  | .connectionFailed address reason => "Cannot connect to device at " ++ address ++ ": " ++ reason
  | .authenticationFailed message => "Authentication failed: " ++ message
  | .disconnected reason => "Device closed the session: " ++ reason
  | .timeout seconds =>
    "Device did not answer within " ++ String.ofList (Text.ofNat seconds) ++ "s"
  | .notFound kind key => kind ++ " not found: " ++ key
  | .decode message => "Cannot decode device reply: " ++ message
  | .rejected trap => "Operation rejected by device: " ++ trap.message
  | .validationFailed message => "Validation failed: " ++ message
  | .config message => "Configuration error: " ++ message
  | .internal message => "Internal error: " ++ message

/-- Whether it says that an object does not exist. -/
def isNotFound : ClientError → Bool
  | .notFound .. => true
  | _ => false

/-- The class of a reply that is no record. -/
def ofDecode (e : DecodeError) : ClientError := .decode e.message

/-- The class of a failed call. A stream that could not be made secure was never connected. -/
def ofGateway : GatewayError → ClientError
  | .authentication message => .authenticationFailed message
  | .connect address reason => .connectionFailed address reason
  | .tls reason => .connectionFailed "" ("TLS error: " ++ reason)
  | .stream fault => .disconnected fault.message
  | .fatal reason => .disconnected reason
  | .timeout seconds => .timeout seconds
  | .protocol fault => .internal ("Protocol error: " ++ fault.message)
  | .device trap => .rejected trap
  | .decode e => .ofDecode e

end ClientError

end RouterMenu
