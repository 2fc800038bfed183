/-!
# Why settings cannot be used
-/

namespace RouterMenu

/-- Why settings could not be read, chosen from, or written. -/
inductive SettingsError where
  | validation (field reason : String)
  | unknownProfile (name : String)
  /-- Neither a profile nor the environment names a device. -/
  | noDevice
  | noCredentials (profile : String)
  /-- The settings have no text. -/
  | serialization (reason : String)
  /-- The layers of the settings do not fit together. -/
  | loading (reason : String)
  | io (reason : String)
deriving DecidableEq, Repr

/-- What is reported about it. -/
def SettingsError.message : SettingsError → String
  | .validation field reason => "invalid " ++ field ++ ": " ++ reason
  | .unknownProfile name => "profile '" ++ name ++ "' not found"
  | .noDevice => "no device configured (create a profile or set MIKROTIK_HOST)"
  | .noCredentials profile => "no credentials configured for profile '" ++ profile ++ "'"
  | .serialization reason => "failed to serialize config: " ++ reason
  | .loading reason => "config loading failed: " ++ reason
  | .io reason => "IO error: " ++ reason

end RouterMenu
