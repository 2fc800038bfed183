import RouterMenu.Settings.Environment
import RouterMenu.Settings.Error
import RouterMenu.Settings.Extract
import RouterMenu.Settings.Host
import RouterMenu.Toml.Reader

/-!
# Loading settings

Settings are laid together from what is built in, from the file of settings and from the variables
of the environment that begin with `TIKLY_`, each over the one before.
-/

namespace RouterMenu.Settings

/-- How the variables begin that change settings. -/
def settingsStart : String := "TIKLY_"

/-- How the variables begin that describe a device. -/
def deviceStart : String := "MIKROTIK_"

/-- The settings that are built in. -/
def builtin : Node :=
  let d : Defaults := {}
  .table .builtin
    [("default_profile", .text .builtin "default"),
      ("defaults", .table .builtin
        [("color", .text .builtin d.color), ("output", .text .builtin d.output),
          ("timeout", .unsigned .builtin d.timeout)]),
      ("profiles", .table .builtin [])]

/-- What is said of a file that breaks the rules of its format. -/
def badFile : String := "TOML parse error"

/-- What a file of settings says. -/
def fileLayer (path : String) : Option String → Except SettingsError Node
  | none => .ok (.table (.file path) [])
  | some text =>
    match Toml.read text with
    | some entries => .ok (.table (.file path) (Toml.entryNodes (.file path) [] entries))
    | none => .error (.loading badFile)

/-- All layers laid over each other. -/
def tree (h : Host) : Except SettingsError Node := do
  let file ← fileLayer (h.shown h.settingsPath) h.settings?
  .ok ((builtin.overlay file).overlay (Environment.layer settingsStart true h.environment))

/-- Makes a failure of what does not fit. -/
def checked {α : Type} : Except Misfit α → Except SettingsError α
  | .ok a => .ok a
  | .error m => .error (.loading m.message)

/-- The settings of a host. -/
def load (h : Host) : Except SettingsError Settings := do checked (ofNode (← tree h))

/-- The settings of a host, or those that are built in if it has none that can be used. -/
def loadOrDefault (h : Host) : Settings :=
  match load h with
  | .ok s => s
  | .error _ => {}

/-- The profile that the environment describes. Without a host it describes none. -/
def environmentProfile (h : Host) : Except SettingsError (Option Profile) := do
  let d ← checked (EnvironmentDevice.ofNode (Environment.layer deviceStart false h.environment))
  .ok (d.host?.map fun host =>
    { host, username? := d.user?, password? := d.password?, tls := d.tls,
      authorities? := d.authorities?, insecure? := some d.insecure })

end RouterMenu.Settings
