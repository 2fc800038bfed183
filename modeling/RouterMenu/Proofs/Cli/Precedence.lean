import Mathlib.Data.List.Basic
import RouterMenu.Cli.Target

/-!
# Which source counts

What is known of a device comes from the command line, from a profile in the settings, from the
environment and from the defaults. A command line starts from one profile at most (`Starts`): the
one it asks for, the default one, the one that the environment describes, or an empty one if it
names a host. Then each piece of the device has its own order of sources, in which the command line
comes first (`Precedence`).
-/

namespace RouterMenu.Cli

open Settings (environmentProfile environmentName)

namespace Options

variable {o : Options} {h : Host} {s : Settings} {name : String} {p : Profile}

/-! ## The profile to start from -/

/-- No profile is asked for, and there is no default one: it is up to the environment. -/
structure Consults (o : Options) (s : Settings) : Prop where
  unasked : o.profile? = none
  absent : ∀ name, s.defaultProfile? = some name → s.profile? name = none

/-- The profile that a command line starts from, by its name. -/
inductive Starts (o : Options) (h : Host) (s : Settings) : String → Profile → Prop where
  | requested {name : String} {p : Profile} (asked : o.profile? = some name)
      (found : s.profile? name = some p) : Starts o h s name p
  | default {name : String} {p : Profile} (unasked : o.profile? = none)
      (named : s.defaultProfile? = some name) (found : s.profile? name = some p) :
      Starts o h s name p
  | environment {p : Profile} (consults : o.Consults s)
      (described : environmentProfile h = .ok (some p)) : Starts o h s environmentName p
  | flags (consults : o.Consults s) (undescribed : environmentProfile h = .ok none)
      (host : o.host?.isSome = true) : Starts o h s flagsName {}

/-- What a choice comes to if it is up to the environment. -/
theorem Consults.select (consults : o.Consults s) :
    s.select h o.profile? = match environmentProfile h with
      | .ok (some p) => .ok (environmentName, p)
      | .ok none => .error .noDevice
      | .error e => .error e := by
  have hnone : (s.defaultProfile?.bind fun name => (s.profile? name).map (name, ·)) = none := by
    rw [Option.bind_eq_none_iff]
    intro name hname
    rw [consults.absent name hname]
    rfl
  unfold Settings.select
  simp only [consults.unasked, hnone]
  cases environmentProfile h with
  | error e => rfl
  | ok described => cases described <;> rfl

/-- The profile to start from is chosen. -/
theorem Starts.choose_eq (starts : o.Starts h s name p) : o.choose h s = .ok (name, p) := by
  have hselect : s.select h o.profile? = .ok (name, p) → o.choose h s = .ok (name, p) :=
    fun hs => by simp only [choose, hs]
  cases starts with
  | requested asked found =>
    exact hselect (by simp only [Settings.select, asked, found])
  | default unasked named found =>
    exact hselect (by simp only [Settings.select, unasked, named, found, Option.bind_some,
      Option.map_some])
  | environment consults described =>
    exact hselect (by simp only [consults.select, described])
  | flags consults undescribed host =>
    simp only [choose, consults.select, undescribed, host, if_true]

/-- The environment can only be at fault by what its variables hold. -/
theorem exists_loading_of_error {e : SettingsError} (herror : environmentProfile h = .error e) :
    ∃ reason, e = .loading reason := by
  unfold environmentProfile at herror
  cases hd : Settings.EnvironmentDevice.ofNode
      (Settings.Environment.layer Settings.deviceStart false h.environment) with
  | ok d =>
    rw [hd] at herror
    simp [Settings.checked, bind, Except.bind] at herror
  | error misfit =>
    rw [hd] at herror
    simp only [Settings.checked, bind, Except.bind, Except.error.injEq] at herror
    exact ⟨misfit.message, herror.symm⟩

/-- **There are four ways to choose a profile,** and three of them fail. -/
theorem choose_cases (o : Options) (h : Host) (s : Settings) :
    (∃ name p, o.Starts h s name p)
      ∨ (∃ name, o.profile? = some name ∧ s.profile? name = none
          ∧ o.choose h s = .error (.profileNotFound name (available s)))
      ∨ (o.Consults s ∧ environmentProfile h = .ok none ∧ o.host? = none
          ∧ o.choose h s = .error (.noConfig h.settingsPath))
      ∨ (o.Consults s ∧ ∃ reason, environmentProfile h = .error (.loading reason)
          ∧ o.choose h s = .error (.config (.loading reason))) := by
  cases hasked : o.profile? with
  | some name =>
    cases hfound : s.profile? name with
    | some p => exact .inl ⟨name, p, .requested hasked hfound⟩
    | none =>
      refine .inr (.inl ⟨name, rfl, hfound, ?_⟩)
      simp only [choose, Settings.select, hasked, hfound]
  | none =>
    by_cases habsent : ∀ name, s.defaultProfile? = some name → s.profile? name = none
    · have hconsults : o.Consults s := ⟨hasked, habsent⟩
      cases hdescribed : environmentProfile h with
      | error e =>
        obtain ⟨reason, rfl⟩ := exists_loading_of_error hdescribed
        refine .inr (.inr (.inr ⟨hconsults, reason, rfl, ?_⟩))
        simp only [choose, hconsults.select, hdescribed]
        rfl
      | ok described =>
        cases described with
        | some p => exact .inl ⟨_, p, .environment hconsults hdescribed⟩
        | none =>
          cases hhost : o.host? with
          | some host => exact .inl ⟨_, _, .flags hconsults hdescribed (by rw [hhost]; rfl)⟩
          | none =>
            refine .inr (.inr (.inl ⟨hconsults, rfl, rfl, ?_⟩))
            simp only [choose, hconsults.select, hdescribed, hhost]
            rfl
    · -- the default profile is there, so the environment is not looked at
      push Not at habsent
      obtain ⟨name, hname, hpresent⟩ := habsent
      obtain ⟨p, hp⟩ := Option.ne_none_iff_exists'.1 hpresent
      exact .inl ⟨name, p, .default hasked hname hp⟩

/-! ## What is known of the device -/

/-- Where the device is. -/
def hostFrom (o : Options) (p : Profile) : String := o.host?.getD p.host

/-- Who logs in, if that is known. -/
def userFrom? (o : Options) (h : Host) (p : Profile) : Option String :=
  o.user?.or (p.username?.or (h.env? Profile.userVariable))

/-- The password, if it is known. -/
def passwordFrom? (o : Options) (h : Host) (p : Profile) : Option String :=
  o.password?.or
    ((p.passwordVariable?.bind h.env?).or (p.password?.or (h.env? Profile.passwordVariable)))

/-- How many seconds the device may take. -/
def timeoutFrom (o : Options) (s : Settings) (p : Profile) : Nat :=
  (o.timeout?.or p.timeout?).getD s.defaults.timeout

/-- Whether something calls for a secured stream. -/
def secures (o : Options) (p : Profile) : Bool :=
  p.tls || o.tls || o.insecure || o.authorities?.isSome

theorem username_overlay :
    (o.overlay p).username h name = match o.userFrom? h p with
      | some user => .ok user
      | none => .error (.noCredentials name) := by
  rw [Profile.username, overlay, userFrom?]
  cases o.user? <;> rfl

/-- A password on the command line puts the variable of the profile out of play. -/
theorem password_overlay :
    (o.overlay p).password h name = match o.passwordFrom? h p with
      | some password => .ok password
      | none => .error (.noCredentials name) := by
  rw [Profile.password, overlay, passwordFrom?]
  cases o.password? <;> rfl

theorem trust?_overlay : (o.overlay p).trust? = none ↔ o.secures p = false := by
  have htls : (o.overlay p).tls = o.secures p := rfl
  rw [Profile.trust?, htls]
  cases o.secures p with
  | false => simp
  | true =>
    simp only [Bool.not_true, Bool.false_eq_true, if_false, Bool.true_eq_false, iff_false]
    split
    · simp
    · cases (o.overlay p).authorities? <;> simp

/-- **The device of a profile under the options**: it must be somewhere, and both credentials must
be known. -/
theorem device_overlay :
    (o.overlay p).device h name s.defaults =
      if Text.allBlank (o.hostFrom p) then
        .error (.validation "host" ("profile '" ++ name ++ "' has no host"))
      else match o.userFrom? h p, o.passwordFrom? h p with
        | some username, some password =>
          .ok { host := o.hostFrom p, username, password, trust? := (o.overlay p).trust?,
                timeout := o.timeoutFrom s p * 1000 }
        | _, _ => .error (.noCredentials name) := by
  have hhost : (o.overlay p).host = o.hostFrom p := rfl
  have htimeout : (o.overlay p).timeout?.getD s.defaults.timeout = o.timeoutFrom s p := rfl
  rw [Profile.device, hhost, htimeout, username_overlay, password_overlay]
  split
  · rfl
  · cases o.userFrom? h p with
    | none => rfl
    | some username => cases o.passwordFrom? h p <;> rfl

/-- What becomes of a device once the settings are loaded and a profile is chosen. -/
theorem device_of_starts (loaded : Settings.load h = .ok s) (starts : o.Starts h s name p) :
    o.device h = settled h ((o.overlay p).device h name s.defaults) := by
  rw [device, loaded]
  simp only [settled, bind, Except.bind, starts.choose_eq]

theorem device_of_choose_error {f : Failure} (loaded : Settings.load h = .ok s)
    (hchoose : o.choose h s = .error f) : o.device h = .error f := by
  rw [device, loaded]
  simp only [settled, bind, Except.bind, hchoose]

/-- Once there is a profile to start from, only a blank place and missing credentials are left to
go wrong. -/
theorem error_of_starts (loaded : Settings.load h = .ok s) (starts : o.Starts h s name p)
    {f : Failure} (herror : o.device h = .error f) :
    (Text.allBlank (o.hostFrom p) = true
        ∧ f = .validation "host" ("profile '" ++ name ++ "' has no host"))
      ∨ (Text.allBlank (o.hostFrom p) = false
        ∧ (o.userFrom? h p = none ∨ o.passwordFrom? h p = none) ∧ f = .noCredentials name) := by
  rw [device_of_starts loaded starts, device_overlay] at herror
  split at herror
  · next hblank => exact .inl ⟨hblank, (Except.error.inj herror).symm⟩
  · next hblank =>
    -- with a host in place, what fails is the name or the password
    refine .inr ⟨Bool.eq_false_iff.2 hblank, ?_⟩
    cases huser : o.userFrom? h p with
    | none =>
      rw [huser] at herror
      exact ⟨.inl rfl, (Except.error.inj herror).symm⟩
    | some username =>
      cases hpassword : o.passwordFrom? h p with
      | none =>
        rw [huser, hpassword] at herror
        exact ⟨.inr rfl, (Except.error.inj herror).symm⟩
      | some password =>
        rw [huser, hpassword] at herror
        simp [settled] at herror

/-! ## The order of the sources -/

/-- Which source each piece of a device is taken from, and what is said if there is none. -/
structure Precedence (o : Options) (h : Host) (s : Settings) : Prop where
  /-- There is one profile to start from at most. -/
  unique {name name' : String} {p p' : Profile} :
    o.Starts h s name p → o.Starts h s name' p' → name = name' ∧ p = p'
  /-- A profile that is asked for must exist. -/
  unknown (name listed : String) :
    o.device h = .error (.profileNotFound name listed) ↔
      o.profile? = some name ∧ s.profile? name = none ∧ listed = available s
  /-- If none is asked for, there must be one to start from. -/
  unconfigured (path : String) :
    o.device h = .error (.noConfig path) ↔
      path = h.settingsPath ∧ o.profile? = none ∧ (∀ e, environmentProfile h ≠ .error e)
        ∧ ∀ name p, ¬ o.Starts h s name p
  /-- Variables that make no sense matter when it is up to the environment. -/
  misread {e : SettingsError} :
    o.Consults s → environmentProfile h = .error e → o.device h = .error (.config e)
  /-- A device without a place is no device. -/
  blank {name : String} {p : Profile} :
    o.Starts h s name p → Text.allBlank (o.hostFrom p) = true →
      o.device h = .error (.validation "host" ("profile '" ++ name ++ "' has no host"))
  /-- Both credentials must be known, from wherever. -/
  noCredentials (name : String) :
    o.device h = .error (.noCredentials name) ↔
      ∃ p, o.Starts h s name p ∧ Text.allBlank (o.hostFrom p) = false
        ∧ (o.userFrom? h p = none ∨ o.passwordFrom? h p = none)
  /-- Everything else follows from the profile to start from. -/
  known {name username password : String} {p : Profile} :
    o.Starts h s name p → Text.allBlank (o.hostFrom p) = false →
      o.userFrom? h p = some username → o.passwordFrom? h p = some password →
        ∃ d, o.device h = .ok d ∧ d.host = o.hostFrom p ∧ d.username = username
          ∧ d.password = password ∧ d.timeout = o.timeoutFrom s p * 1000
          ∧ (d.trust? = none ↔
            p.tls = false ∧ o.tls = false ∧ o.authorities? = none ∧ o.insecure = false)

/-- **Every piece of a device has its order of sources,** whatever the options, the settings and the
environment are: the profile that is asked for, the default one, the one that the environment
describes, and an empty one if there is a host; then for each piece the option, what the profile
says, and the environment or the defaults. -/
theorem precedence (loaded : Settings.load h = .ok s) : o.Precedence h s where
  unique starts starts' := by
    have hsame := starts.choose_eq.symm.trans starts'.choose_eq
    simpa using hsame
  unknown name listed := by
    constructor
    · intro herror
      obtain ⟨_, _, hstarts⟩ | ⟨asked, hasked, habsent, hchoose⟩ | ⟨-, -, -, hchoose⟩
        | ⟨-, _, -, hchoose⟩ := choose_cases o h s
      · obtain ⟨-, hf⟩ | ⟨-, -, hf⟩ := error_of_starts loaded hstarts herror <;> cases hf
      · rw [device_of_choose_error loaded hchoose] at herror
        cases herror
        exact ⟨hasked, habsent, rfl⟩
      · rw [device_of_choose_error loaded hchoose] at herror
        cases herror
      · rw [device_of_choose_error loaded hchoose] at herror
        cases herror
    · rintro ⟨hasked, habsent, rfl⟩
      refine device_of_choose_error loaded ?_
      simp only [choose, Settings.select, hasked, habsent]
  unconfigured path := by
    constructor
    · intro herror
      obtain ⟨_, _, hstarts⟩ | ⟨_, -, -, hchoose⟩ | ⟨hconsults, hnone, hhost, hchoose⟩
        | ⟨-, _, -, hchoose⟩ := choose_cases o h s
      · obtain ⟨-, hf⟩ | ⟨-, -, hf⟩ := error_of_starts loaded hstarts herror <;> cases hf
      · rw [device_of_choose_error loaded hchoose] at herror
        cases herror
      · rw [device_of_choose_error loaded hchoose] at herror
        cases herror
        refine ⟨rfl, hconsults.unasked, fun e he => by simp [hnone] at he, fun name p hstarts => ?_⟩
        -- a profile to start from would have been chosen
        rw [hstarts.choose_eq] at hchoose
        cases hchoose
      · rw [device_of_choose_error loaded hchoose] at herror
        cases herror
    · rintro ⟨rfl, hunasked, hsense, hnowhere⟩
      obtain ⟨name, p, hstarts⟩ | ⟨_, hasked, -, -⟩ | ⟨-, -, -, hchoose⟩ | ⟨-, _, hmisread, -⟩ :=
        choose_cases o h s
      · exact absurd hstarts (hnowhere name p)
      · rw [hunasked] at hasked
        cases hasked
      · exact device_of_choose_error loaded hchoose
      · exact absurd hmisread (hsense _)
  misread consults hmisread := by
    obtain ⟨reason, rfl⟩ := exists_loading_of_error hmisread
    refine device_of_choose_error loaded ?_
    simp only [choose, consults.select, hmisread]
    rfl
  blank starts hblank := by
    rw [device_of_starts loaded starts, device_overlay, if_pos hblank]
    rfl
  noCredentials name := by
    constructor
    · intro herror
      obtain ⟨_, p, hstarts⟩ | ⟨_, -, -, hchoose⟩ | ⟨-, -, -, hchoose⟩ | ⟨-, _, -, hchoose⟩ :=
        choose_cases o h s
      · obtain ⟨-, hf⟩ | ⟨hplace, hunknown, hf⟩ := error_of_starts loaded hstarts herror
        · cases hf
        · cases hf
          exact ⟨p, hstarts, hplace, hunknown⟩
      all_goals
        rw [device_of_choose_error loaded hchoose] at herror
        cases herror
    · rintro ⟨p, hstarts, hplace, hunknown⟩
      rw [device_of_starts loaded hstarts, device_overlay, if_neg (Bool.eq_false_iff.1 hplace)]
      rcases hunknown with hnone | hnone
      · rw [hnone]
        rfl
      · rw [hnone]
        cases o.userFrom? h p <;> rfl
  known {_ username password p} starts hplace huser hpassword := by
    refine ⟨{ host := o.hostFrom p, username, password, trust? := (o.overlay p).trust?,
              timeout := o.timeoutFrom s p * 1000 }, ?_, rfl, rfl, rfl, rfl, ?_⟩
    · rw [device_of_starts loaded starts, device_overlay, if_neg (Bool.eq_false_iff.1 hplace),
        huser, hpassword]
      rfl
    · rw [trust?_overlay, secures]
      simp only [Bool.or_eq_false_iff, Option.isSome_eq_false_iff, Option.isNone_iff_eq_none]
      tauto

/-- A host with a profile that names a variable for the password, and with variables that describe
another device. -/
def labHost : Host where
  home := "/home/ops"
  directory := "/home/ops"
  environment := [("LAB_PASSWORD", "quiet"), ("MIKROTIK_HOST", "10.9.9.9"),
    ("MIKROTIK_USER", "ops"), ("MIKROTIK_PASSWORD", "loud")]
  settings? := some ("default_profile = \"lab\"\n[profiles.lab]\nhost = \"10.0.0.1\"\n"
    ++ "password = \"old\"\npassword_env = \"LAB_PASSWORD\"\ntimeout = 9\n")

/-- The profile in the settings of this host. -/
def lab : Profile where
  host := "10.0.0.1"
  password? := some "old"
  passwordVariable? := some "LAB_PASSWORD"
  timeout? := some 9

/-- The default profile goes before the variables that describe a device, its variable before its
password, and options before the profile; what it leaves open is taken from the environment. -/
theorem precedence_lab :
    Settings.load labHost = .ok { defaultProfile? := some "lab", profiles := [("lab", lab)] }
      ∧ (∃ d, ({ insecure := true, timeout? := some 5 } : Options).device labHost = .ok d
        ∧ d.host = "10.0.0.1" ∧ d.username = "ops" ∧ d.password = "quiet" ∧ d.timeout = 5000
        ∧ d.trust? ≠ none)
      ∧ ({ profile? := some "home" } : Options).device labHost
        = .error (.profileNotFound "home" "lab") := by
  have hloaded : Settings.load labHost
      = .ok { defaultProfile? := some "lab", profiles := [("lab", lab)] } := by
    decide +kernel
  obtain ⟨d, hdevice, hhost, huser, hpassword, htimeout, hplain⟩ :=
    (precedence (o := { insecure := true, timeout? := some 5 }) hloaded).known
      (.default rfl rfl rfl) rfl rfl rfl
  have hsecured : d.trust? ≠ none := fun hnone => absurd (hplain.1 hnone).2.2.2 (by decide)
  exact ⟨hloaded, ⟨d, hdevice, hhost, huser, hpassword, htimeout, hsecured⟩,
    ((precedence hloaded).unknown "home" "lab").2 ⟨rfl, rfl, rfl⟩⟩

end Options

end RouterMenu.Cli
