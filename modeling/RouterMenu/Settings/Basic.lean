import RouterMenu.Document.Basic
import RouterMenu.Gateway.Device

/-!
# Settings

What a user keeps about devices: profiles by name, one of which is the default, and defaults for
all of them.
-/

namespace RouterMenu

/-- What holds unless a command line or a profile says otherwise. -/
structure Defaults where
  output : String := "table"
  color : String := "auto"
  /-- In seconds. -/
  timeout : Nat := 30
deriving DecidableEq, Repr

/-- What is known about a device. -/
structure Profile where
  host : String := ""
  username? : Option String := none
  password? : Option String := none
  /-- The environment variable that holds the password. -/
  passwordVariable? : Option String := none
  tls : Bool := false
  /-- The file of the authorities that vouch for the device. -/
  authorities? : Option String := none
  /-- Whether any certificate will do. -/
  insecure? : Option Bool := none
  /-- In seconds. -/
  timeout? : Option Nat := none
deriving DecidableEq, Repr

/-- Everything a user keeps. -/
structure Settings where
  defaultProfile? : Option String := some "default"
  defaults : Defaults := {}
  /-- The profiles, ordered by their names. -/
  profiles : List (String × Profile) := []
deriving DecidableEq, Repr

namespace Settings

/-- The profile of a name. -/
def profile? (s : Settings) (name : String) : Option Profile := s.profiles.lookup name

/-- The names of the profiles. -/
def names (s : Settings) : List String := s.profiles.map Prod.fst

end Settings

end RouterMenu
