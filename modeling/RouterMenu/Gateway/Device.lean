import RouterMenu.Gateway.Address
import RouterMenu.Gateway.Answer
import RouterMenu.Text.Blank

/-!
# Devices

Where a device is, who logs in there, whether the stream to it is secured and by whom its
certificate is vouched for, and how long it may take to answer.
-/

namespace RouterMenu

/-- Who vouches for the certificate of a device. -/
inductive Trust where
  /-- The authorities everybody trusts. -/
  | system
  /-- The authorities listed in a file. -/
  | authorities (path : String)
  /-- Nobody: every certificate will do. -/
  | anyone
deriving DecidableEq, Repr

/-- A device and how it is reached. -/
structure Device where
  /-- The address: `host`, `host:port` or `[host]:port`. -/
  host : String := "192.168.88.1"
  username : String := "admin"
  password : String := ""
  /-- How the stream is secured; it is not if this is absent. -/
  trust? : Option Trust := none
  /-- How many milliseconds dialing may take, and every command. -/
  timeout : Nat := 30000
deriving DecidableEq, Repr

namespace Device

/-- The port of the plain service. -/
def plainPort : Nat := 8728

/-- The port of the secured service. -/
def securePort : Nat := 8729

/-- The port of a device whose address names none. -/
def defaultPort (d : Device) : Nat := if d.trust?.isSome then securePort else plainPort

/-- What is dialed. -/
def endpoint (d : Device) : Endpoint := Address.split d.host d.defaultPort

/-- Who logs in. -/
def credentials (d : Device) : Credentials := ⟨d.username, d.password⟩

/-- The whole seconds of the timeout. -/
def seconds (d : Device) : Nat := d.timeout / 1000

/-- Why the device could never be reached, if there is such a reason. -/
def problem? (d : Device) : Option String :=
  if Text.allBlank d.host then some "host is empty"
  else if Text.allBlank d.username then some "username is empty"
  else if d.timeout = 0 then some "timeout must be greater than zero"
  else none

end Device

end RouterMenu
