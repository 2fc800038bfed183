import RouterMenu.Settings.Basic
import RouterMenu.Settings.Error
import RouterMenu.Text.Numeral
import RouterMenu.Toml.Writer

/-!
# The text of settings

The entries of a table come before the tables within it, and a blank line stands before every
header that something precedes. What is absent is not written. A file has no number above the
greatest signed one of 64 bits, so settings with such a timeout have no text.
-/

namespace RouterMenu.Settings

open Toml

/-- An entry on a line of its own. -/
def line (key : String) (value : List Char) : List Char :=
  writeKey key ++ " = ".toList ++ value ++ ['\n']

/-- An entry whose value may be absent. -/
def line? (key : String) (value? : Option (List Char)) : List Char :=
  match value? with
  | some value => line key value
  | none => []

/-- A truth value. -/
def writeFlag (b : Bool) : List Char := if b then "true".toList else "false".toList

/-- The header of a table. -/
def header (path : List String) : List Char :=
  '[' :: List.intercalate ['.'] (path.map writeKey) ++ [']', '\n']

/-- The lines of defaults. -/
def Defaults.write (d : Defaults) : List Char :=
  line "output" (writeText d.output) ++ line "color" (writeText d.color) ++
    line "timeout" (Text.ofNat d.timeout)

/-- The lines of a profile. -/
def Profile.write (p : Profile) : List Char :=
  line "host" (writeText p.host) ++
    line? "username" (p.username?.map writeText) ++
    line? "password" (p.password?.map writeText) ++
    line? "password_env" (p.passwordVariable?.map writeText) ++
    line "tls" (writeFlag p.tls) ++
    line? "ca_cert" (p.authorities?.map writeText) ++
    line? "insecure" (p.insecure?.map writeFlag) ++
    line? "timeout" (p.timeout?.map Text.ofNat)

/-- The tables of profiles. Where there are none, the table that would hold them is written. -/
def writeProfiles (ps : List (String × Profile)) : List Char :=
  match ps with
  | [] => '\n' :: header ["profiles"]
  | ps => ps.flatMap fun (name, p) => '\n' :: header ["profiles", name] ++ Profile.write p

/-- All lines. -/
def lines (s : Settings) : List Char :=
  let first := line? "default_profile" (s.defaultProfile?.map writeText)
  let gap : List Char := if first.isEmpty then [] else ['\n']
  first ++ gap ++ header ["defaults"] ++ Defaults.write s.defaults ++ writeProfiles s.profiles

/-- Whether every timeout can be written. -/
def isWritable (s : Settings) : Bool :=
  s.defaults.timeout ≤ Text.maxI64 &&
    s.profiles.all fun (_, p) => (p.timeout?.map fun t => decide (t ≤ Text.maxI64)).getD true

/-- What is said of a timeout that cannot be written. -/
def outOfRange : String := "out-of-range value for u64 type"

/-- The text of settings. -/
def write (s : Settings) : Except SettingsError String :=
  if s.isWritable then .ok (String.ofList s.lines) else .error (.serialization outOfRange)

end RouterMenu.Settings
