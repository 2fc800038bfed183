import RouterMenu.Settings.Basic

/-!
# Settings as documents

What is absent is written as null. Passwords can be masked, so that settings can be shown around.
-/

namespace RouterMenu

/-- A truth value that may be missing. -/
def Document.optionalFlag : Option Bool → Document
  | some b => .flag b
  | none => .null

/-- A number that may be missing. -/
def Document.optionalNat : Option Nat → Document
  | some n => .int n
  | none => .null

/-- Defaults as a map. -/
def Defaults.toDocument (d : Defaults) : Document :=
  .map [("output", .text d.output), ("color", .text d.color), ("timeout", .int d.timeout)]

/-- A profile as a map. -/
def Profile.toDocument (p : Profile) : Document :=
  .map
    [("host", .text p.host), ("username", .optional p.username?),
      ("password", .optional p.password?), ("password_env", .optional p.passwordVariable?),
      ("tls", .flag p.tls), ("ca_cert", .optional p.authorities?),
      ("insecure", .optionalFlag p.insecure?), ("timeout", .optionalNat p.timeout?)]

namespace Settings

/-- Settings as a map. -/
def toDocument (s : Settings) : Document :=
  .map
    [("default_profile", .optional s.defaultProfile?), ("defaults", s.defaults.toDocument),
      ("profiles", .map (s.profiles.map fun (name, p) => (name, p.toDocument)))]

/-- What is shown in place of a password. -/
def mask : String := "****"

/-- The settings with a mask in place of every password. -/
def masked (s : Settings) : Settings :=
  { s with
    profiles := s.profiles.map fun (name, p) =>
      (name, { p with password? := p.password?.map fun _ => mask }) }

end Settings

end RouterMenu
