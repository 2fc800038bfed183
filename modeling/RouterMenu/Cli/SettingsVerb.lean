import RouterMenu.Cli.Disk
import RouterMenu.Settings.Document

/-!
# The verbs of the settings

None of them has to do with a device. Settings that cannot be loaded are shown as if there were
none, but they are never overwritten.
-/

namespace RouterMenu.Cli

/-- Settings as text. -/
def renderSettings (s : Settings) : OutputFormat → Except SettingsError String
  | .table | .plain => s.write
  | .json => .ok s.toDocument.toJsonIndented
  | .jsonCompact => .ok s.toDocument.toJson
  | .yaml => .ok s.toDocument.toYaml

/-- A line about a profile; a mark stands before the default one, and its name is colored. -/
def profileLine (colored : Bool) (default? : Option String) (name : String) (p : Profile) :
    String :=
  let chosen := default? == some name
  let shown := if colored && chosen then "\x1b[32m" ++ name ++ "\x1b[39m" else name
  (if chosen then "*" else " ") ++ " " ++ shown ++ "  " ++ p.host ++ "\n"

/-- The lines about all profiles. -/
def profileLines (colored : Bool) (s : Settings) : String :=
  let text := String.join (s.profiles.map fun (name, p) =>
    profileLine colored s.defaultProfile? name p)
  String.ofList (Text.trimEnd text.toList)

/-- Makes a profile the default, where nothing goes wrong with the disk. -/
def useProfile (o : Options) (h : Host) (name : String) : Except Failure Report :=
  Id.run (Disk.sound.use o h name).run

/-- The entry of a keyring that has the password of a profile. -/
def passwordEntry (profile : String) : String := profile ++ "/password"

/-- Asks for the password of a profile, and puts it into the keyring. -/
def keepPassword (c : Console) (o : Options) (profile : String) : Except Failure Report :=
  match c.password, c.keyring? with
  | .error reason, _ => .error (.validation "interactive" ("prompt failed: " ++ reason))
  | .ok _, some (.access reason) =>
    .error (.validation "keyring" ("failed to access keyring: " ++ reason))
  | .ok _, some (.store reason) =>
    .error (.validation "keyring" ("failed to store password in keyring: " ++ reason))
  | .ok password, none =>
    .ok { Report.remark o ("Password stored in system keyring for profile '" ++ profile ++ "'") with
      kept? := some (passwordEntry profile, password) }

/-- Turns a failure into a report. -/
def reported : Except Failure Report → Report
  | .ok r => r
  | .error f => .failed f

/-- What a verb comes to. -/
def SettingsVerb.report (c : Console) (o : Options) : SettingsVerb → Report
  | .show =>
    let s := (Settings.loadOrDefault c.toHost).masked
    reported ((settled c.toHost (renderSettings s o.output)).map (Report.show o))
  | .path => .show o c.settingsPath
  | .profiles =>
    .show o (profileLines (c.isColored o.color) (Settings.loadOrDefault c.toHost))
  | .use name => reported (useProfile o c.toHost name)
  | .setPassword profile? =>
    let profile := profile?.getD (o.profileName (Settings.loadOrDefault c.toHost))
    reported (keepPassword c o profile)

end RouterMenu.Cli
