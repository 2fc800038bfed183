import RouterMenu.Settings.Load

/-!
# Choosing a device

A profile is asked for by name, or is the default one, or is described by the environment. What a
profile leaves open is looked for elsewhere: the name of the user and the password in the
environment, the timeout in the defaults.
-/

namespace RouterMenu

namespace Settings

/-- The name of the profile that the environment describes. -/
def environmentName : String := "env"

/-- Chooses a profile. One that is asked for must exist; the default need not. -/
def select (h : Host) (s : Settings) (requested? : Option String) :
    Except SettingsError (String × Profile) :=
  match requested? with
  | some name =>
    match s.profile? name with
    | some p => .ok (name, p)
    | none => .error (.unknownProfile name)
  | none =>
    match s.defaultProfile?.bind fun name => (s.profile? name).map (name, ·) with
    | some found => .ok found
    | none => do
      match ← environmentProfile h with
      | some p => .ok (environmentName, p)
      | none => .error .noDevice

end Settings

namespace Profile

/-- The variable of the environment that holds a password for all devices. -/
def passwordVariable : String := "MIKROTIK_PASSWORD"

/-- The variable of the environment that holds the name of the user for all devices. -/
def userVariable : String := "MIKROTIK_USER"

/-- The password for a device: what the variable holds that the profile names, else the one in the
profile, else the one in the environment. -/
def password (h : Host) (p : Profile) (name : String) : Except SettingsError String :=
  match (p.passwordVariable?.bind h.env?).or (p.password?.or (h.env? passwordVariable))
  with
  | some password => .ok password
  | none => .error (.noCredentials name)

/-- The user of a device. -/
def username (h : Host) (p : Profile) (name : String) : Except SettingsError String :=
  match p.username?.or (h.env? userVariable) with
  | some username => .ok username
  | none => .error (.noCredentials name)

/-- Who vouches for the device, if the stream to it is secured at all. That any certificate will do
outweighs a list of authorities. -/
def trust? (p : Profile) : Option Trust :=
  if !p.tls then none
  else if p.insecure?.getD false then some .anyone
  else match p.authorities? with
    | some path => some (.authorities path)
    | none => some .system

/-- The device of a profile. -/
def device (h : Host) (p : Profile) (name : String) (d : Defaults) :
    Except SettingsError Device := do
  if Text.allBlank p.host then
    .error (.validation "host" ("profile '" ++ name ++ "' has no host"))
  let username ← p.username h name
  let password ← p.password h name
  .ok { host := p.host, username, password, trust? := p.trust?,
        timeout := p.timeout?.getD d.timeout * 1000 }

end Profile

end RouterMenu
