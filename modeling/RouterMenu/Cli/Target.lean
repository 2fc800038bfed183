import RouterMenu.Cli.Console
import RouterMenu.Settings.Choice

/-!
# The device of a command

The options of a command line are laid over the profile that is chosen. Where there is no profile
at all, the address on the command line is enough to go on.
-/

namespace RouterMenu

namespace Cli

/-- The name of the profile where the command line alone tells the device. -/
def flagsName : String := "cli"

/-- The profile that a command line is about. -/
def Options.profileName (o : Options) (s : Settings) : String :=
  (o.profile?.or s.defaultProfile?).getD "default"

/-- Lays options over a profile. A list of authorities and the waiver of certificates both call for
a secured stream. -/
def Options.overlay (o : Options) (p : Profile) : Profile where
  host := o.host?.getD p.host
  username? := o.user?.or p.username?
  password? := o.password?.or p.password?
  passwordVariable? := if o.password?.isSome then none else p.passwordVariable?
  tls := p.tls || o.tls || o.insecure || o.authorities?.isSome
  authorities? := o.authorities?.or p.authorities?
  insecure? := if o.insecure then some true else p.insecure?
  timeout? := o.timeout?.or p.timeout?

/-- The names of the profiles there are, for a message. -/
def available (s : Settings) : String :=
  if s.profiles.isEmpty then "(none)" else ", ".intercalate s.names

/-- The profile a command line starts from. -/
def Options.choose (o : Options) (h : Host) (s : Settings) :
    Except Failure (String × Profile) :=
  match s.select h o.profile? with
  | .ok found => .ok found
  | .error .noDevice =>
    if o.host?.isSome then .ok (flagsName, {})
    else .error (.ofSettings h.settingsPath .noDevice)
  | .error (.unknownProfile name) => .error (.profileNotFound name (available s))
  | .error e => .error (.ofSettings h.settingsPath e)

/-- The failure of what has to do with settings. -/
def settled {α : Type} (h : Host) : Except SettingsError α → Except Failure α
  | .ok a => .ok a
  | .error e => .error (.ofSettings h.settingsPath e)

/-- The device a command line is about. -/
def Options.device (o : Options) (h : Host) : Except Failure Device := do
  let s ← settled h (Settings.load h)
  let (name, p) ← o.choose h s
  settled h ((o.overlay p).device h name s.defaults)

end Cli

end RouterMenu
