import RouterMenu.Gateway.Device
import RouterMenu.Trust.Der
import RouterMenu.Trust.Pem

/-!
# Lists of authorities

Before the stream to a device can be secured it must be settled who vouches for certificates. A
file that lists authorities must hold one certificate at least, and nothing that is none.
-/

namespace RouterMenu.Trust

/-- What is said of bytes that are no certificate. -/
def badCertificate : String := "invalid peer certificate: BadEncoding"

/-- Checks certificates one by one. -/
def check : List (List UInt8) → Except String Unit
  | [] => .ok ()
  | certificate :: rest =>
    if Der.isCertificate certificate then check rest
    else .error ("invalid CA cert: " ++ badCertificate)

/-- Checks a list of authorities: what was found is checked before it is asked whether the file
could be read to its end. -/
def checkFile (file : List UInt8) : Except String Unit := do
  let found := Pem.read file
  check found.certificates
  match found.fault? with
  | some fault => .error ("invalid CA cert: " ++ fault.message)
  | none => if found.certificates.isEmpty then .error "CA file contains no certificates" else .ok ()

/-- Settles who vouches for certificates, given how files are read. -/
def settle (read : String → Except String (List UInt8)) : Trust → Except GatewayError Unit
  | .system | .anyone => .ok ()
  | .authorities path =>
    match read path with
    | .error reason =>
      .error (.tls ("failed to read CA cert " ++ path ++ ": " ++ reason))
    | .ok file =>
      match checkFile file with
      | .ok () => .ok ()
      | .error reason => .error (.tls reason)

end RouterMenu.Trust
