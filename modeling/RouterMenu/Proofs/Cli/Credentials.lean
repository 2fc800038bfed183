import RouterMenu.Proofs.Cli.Precedence
import RouterMenu.Proofs.Settings.Variables
import RouterMenu.Proofs.Settings.Verbatim

/-!
# Credentials from the environment

Three variables can describe a device, with no settings and no options at all (`Describes`). They
are read in two ways: as they stand, where a profile lacks the name of the user or the password, and
as what they look like, where the environment has to describe the device. The two agree exactly on
values that are taken as they stand (`credentials_verbatim_iff`); a password that looks like a
number is turned down (`credentials_retyped`).
-/

namespace RouterMenu

namespace Settings

open Environment (begins path? read takeIn Verbatim)

/-- The variable of the environment that holds the place of a device. -/
def hostVariable : String := "MIKROTIK_HOST"

/-- The variables that describe a device, with the keys they lead to. -/
def deviceVariables : List (String × String) :=
  [(hostVariable, "host"), (Profile.userVariable, "user"), (Profile.passwordVariable, "password")]

/-- A host on which these variables describe a device, while no other variable says anything about a
device or about settings, and there is no file of settings. -/
structure Describes (h : Host) (host user password : String) : Prop where
  unique : (h.environment.map Prod.fst).Nodup
  host : h.env? hostVariable = some host
  user : h.env? Profile.userVariable = some user
  password : h.env? Profile.passwordVariable = some password
  only : ∀ v ∈ h.environment, begins deviceStart v.1 = true → v.1 ∈ deviceVariables.map Prod.fst
  undisturbed : ∀ v ∈ h.environment, begins settingsStart v.1 = false
  noFile : h.settings? = none

variable {h : Host} {host user password : String}

/-! ## What the variables say -/

/-- What the variables that describe a device say about it. -/
def deviceEntries (host user password : String) : List (String × Node) :=
  let l := Layer.environment deviceStart
  [("host", read l host), ("password", read l password), ("user", read l user)]

theorem path?_deviceVariables :
    ∀ q ∈ deviceVariables, path? deviceStart false q.1 = some [q.2] := by
  decide

theorem deviceVariables_unique :
    ∀ q ∈ deviceVariables, ∀ r ∈ deviceVariables, q.2 = r.2 → q.1 = r.1 := by
  decide

theorem Describes.leads (describes : Describes h host user password) {v : String × String}
    (hv : v ∈ h.environment) {k : String} {path : List String}
    (hpath : path? deviceStart false v.1 = some (k :: path)) : (v.1, k) ∈ deviceVariables := by
  obtain ⟨q, hq, hname⟩ := List.mem_map.1
    (describes.only v hv (Environment.begins_of_path? hpath))
  rw [← hname, path?_deviceVariables q hq] at hpath
  cases hpath
  rw [← hname]
  exact hq

theorem Describes.lookup (describes : Describes h host user password) {q : String × String}
    (hq : q ∈ deviceVariables) {s : String} (hvalue : h.env? q.1 = some s) :
    (h.environment.foldl (takeIn deviceStart false) []).lookup q.2
      = some (read (.environment deviceStart) s) := by
  have hmem : (q.1, s) ∈ h.environment := Node.mem_of_lookup hvalue
  have hpath : path? deviceStart false q.1 = some [q.2] := path?_deviceVariables q hq
  have halone : ∀ w ∈ h.environment, ∀ path,
      path? deviceStart false w.1 = some (q.2 :: path) → w.1 = q.1 := by
    intro w hw path hpath
    exact deviceVariables_unique _ (describes.leads hw hpath) q hq rfl
  have hfound := Environment.lookup_layer_of_unique hmem hpath describes.unique halone
  exact hfound

theorem Describes.layer_eq (describes : Describes h host user password) :
    Environment.layer deviceStart false h.environment
      = .table (.environment deviceStart) (deviceEntries host user password) := by
  have hordered := Environment.ordered_layer deviceStart false h.environment
  rw [Environment.layer_eq] at hordered ⊢
  have hsorted : Node.SortedKeys (deviceEntries host user password) :=
    Node.sortedKeys_iff.2 (by decide : ["host", "password", "user"].Pairwise (· < ·))
  congr 1
  -- both lists are sorted, so it is enough that every key is looked up alike
  refine hordered.sortedKeys.ext hsorted fun k => ?_
  by_cases hk : ∃ q ∈ deviceVariables, q.2 = k
  · -- one of the three keys, each given by its variable
    obtain ⟨q, hq, rfl⟩ := hk
    obtain rfl | rfl | rfl : q = _ ∨ q = _ ∨ q = _ := by
      simpa [deviceVariables] using hq
    · exact describes.lookup hq describes.host
    · exact describes.lookup hq describes.user
    · exact describes.lookup hq describes.password
  · -- no other key is led to by any variable
    have hmissing : k ∉ (deviceEntries host user password).map Prod.fst := by
      intro hmem
      have hkeys : k ∈ ["host", "password", "user"] := hmem
      exact hk (by simpa [deviceVariables, or_comm, or_left_comm, eq_comm] using hkeys)
    rw [Environment.lookup_foldl_takeIn fun v hv path hpath =>
      hk ⟨_, describes.leads hv hpath, rfl⟩]
    rw [Node.lookup_eq_none hmissing, List.lookup_nil]

theorem load_of_silent (undisturbed : ∀ v ∈ h.environment, begins settingsStart v.1 = false)
    (noFile : h.settings? = none) : load h = .ok {} := by
  rw [load, tree, noFile, Environment.layer_of_silent undisturbed]
  simp only [fileLayer, bind, Except.bind]
  rw [builtin, Node.overlay_table, Node.overlay_table, Node.overlayEntries, Node.overlayEntries]
  rfl

/-- The profile of these texts that the environment describes. -/
def describedProfile (host user password : String) : Profile :=
  { host, username? := some user, password? := some password, insecure? := some false }

/-- The environment describes a device if all three values are read as texts, and it describes the
device with these texts. -/
theorem Describes.environmentProfile_iff (describes : Describes h host user password)
    (p? : Option Profile) : environmentProfile h = .ok p? ↔ ∃ host' user' password',
      (read (.environment deviceStart) host).asText = .ok host'
        ∧ (read (.environment deviceStart) user).asText = .ok user'
        ∧ (read (.environment deviceStart) password).asText = .ok password'
        ∧ p? = some (describedProfile host' user' password') := by
  rw [environmentProfile, describes.layer_eq, EnvironmentDevice.ofNode, deviceEntries]
  simp only [foldEntries, EnvironmentDevice.step, String.reduceEq, if_true, if_false]
  -- in the order of the keys: the first that is no text is what is complained of
  cases (read (.environment deviceStart) host).asText with
  | error m => simp [«at», checked, bind, Except.bind, Except.map]
  | ok host' =>
    cases (read (.environment deviceStart) password).asText with
    | error m => simp [«at», checked, bind, Except.bind, Except.map]
    | ok password' =>
      cases (read (.environment deviceStart) user).asText with
      | error m => simp [«at», checked, bind, Except.bind, Except.map]
      | ok user' =>
        simp only [«at», checked, bind, Except.bind, Except.map, Option.map_some, Except.ok.injEq]
        constructor
        · rintro rfl
          exact ⟨host', user', password', rfl, rfl, rfl, rfl⟩
        · rintro ⟨_, _, _, rfl, rfl, rfl, rfl⟩
          rfl

end Settings

namespace Cli.Options

open Settings (Describes environmentProfile describedProfile deviceStart)
open Settings.Environment (begins Verbatim)

variable {h : Host} {host user password : String}

/-- What the settings that are built in come to without options: it is up to the environment. -/
theorem consults_default : ({} : Options).Consults {} where
  unasked := rfl
  absent _ _ := rfl

/-- Without settings and options, the device is the one that the environment describes. -/
theorem device_of_describes (describes : Describes h host user password) {d : Device} :
    ({} : Options).device h = .ok d ↔ ∃ host' user' password',
      environmentProfile h = .ok (some (describedProfile host' user' password'))
        ∧ Text.allBlank host' = false
        ∧ d = { host := host', username := user', password := password', trust? := none,
                timeout := ({} : Defaults).timeout * 1000 } := by
  have hload : Settings.load h = .ok {} :=
    Settings.load_of_silent describes.undisturbed describes.noFile
  -- nothing names a profile and there are no settings, so the environment is consulted
  cases hdescribed : environmentProfile h with
  | error e =>
    have herror := (precedence hload).misread consults_default hdescribed
    simp [herror]
  | ok p? =>
    obtain ⟨host', user', password', -, -, -, rfl⟩ :=
      (describes.environmentProfile_iff p?).1 hdescribed
    have hstarts : ({} : Options).Starts h {} _ _ := .environment consults_default hdescribed
    rw [device_of_starts hload hstarts, device_overlay]
    have hplace : ({} : Options).hostFrom (describedProfile host' user' password') = host' := rfl
    rw [hplace]
    cases hblank : Text.allBlank host' with
    | true =>
      simp only [if_true, settled, reduceCtorEq, false_iff, not_exists]
      rintro _ _ _ ⟨heq, hfilled, -⟩
      cases heq
      rw [hblank] at hfilled
      cases hfilled
    | false =>
      constructor
      · intro hdevice
        exact ⟨host', user', password', rfl, hblank, (Except.ok.inj hdevice).symm⟩
      · rintro ⟨_, _, _, heq, -, rfl⟩
        cases heq
        rfl

/-- **Three variables of the environment are used as they stand exactly where all three values are
taken as they stand.** The values are what a direct look at the environment gives. -/
theorem credentials_verbatim_iff (describes : Describes h host user password)
    (placed : Text.allBlank host = false) :
    (∃ d, ({} : Options).device h = .ok d ∧ d.host = host ∧ d.username = user
        ∧ d.password = password)
      ↔ Verbatim (.environment deviceStart) host ∧ Verbatim (.environment deviceStart) user
        ∧ Verbatim (.environment deviceStart) password := by
  simp only [← Settings.Environment.asText_read_iff]
  constructor
  · -- what came out was read from the same three texts
    rintro ⟨d, hdevice, rfl, rfl, rfl⟩
    obtain ⟨_, _, _, hdescribed, -, rfl⟩ := (device_of_describes describes).1 hdevice
    obtain ⟨_, _, _, hhost, huser, hpassword, heq⟩ :=
      (describes.environmentProfile_iff _).1 hdescribed
    cases heq
    exact ⟨hhost, huser, hpassword⟩
  · rintro ⟨hhost, huser, hpassword⟩
    have hdescribed : environmentProfile h = .ok (some (describedProfile host user password)) :=
      (describes.environmentProfile_iff _).2 ⟨host, user, password, hhost, huser, hpassword, rfl⟩
    exact ⟨_, (device_of_describes describes).2 ⟨host, user, password, hdescribed, placed, rfl⟩,
      rfl, rfl, rfl⟩

/-- A host on which the environment alone describes a device, with a password. -/
def describingHost (password : String) : Host where
  home := "/home/ops"
  directory := "/home/ops"
  environment := [("HOME", "/home/ops"), ("MIKROTIK_HOST", "10.0.0.1"), ("MIKROTIK_USER", "admin"),
    ("MIKROTIK_PASSWORD", password)]

theorem describes_describingHost (password : String) :
    Describes (describingHost password) "10.0.0.1" "admin" password := by
  have hnames {v : String × String} (hv : v ∈ (describingHost password).environment) :
      v.1 ∈ ["HOME", "MIKROTIK_HOST", "MIKROTIK_USER", "MIKROTIK_PASSWORD"] :=
    List.mem_map_of_mem (f := Prod.fst) hv
  have honly : ∀ name ∈ ["HOME", "MIKROTIK_HOST", "MIKROTIK_USER", "MIKROTIK_PASSWORD"],
      begins deviceStart name = true → name ∈ Settings.deviceVariables.map Prod.fst := by
    decide
  have hsilent : ∀ name ∈ ["HOME", "MIKROTIK_HOST", "MIKROTIK_USER", "MIKROTIK_PASSWORD"],
      begins Settings.settingsStart name = false := by
    decide
  exact {
    unique := (by decide : ["HOME", "MIKROTIK_HOST", "MIKROTIK_USER", "MIKROTIK_PASSWORD"].Nodup)
    host := rfl
    user := rfl
    password := rfl
    only := fun v hv => honly v.1 (hnames hv)
    undisturbed := fun v hv => hsilent v.1 (hnames hv)
    noFile := rfl }

/-- Words are used as they stand. -/
theorem credentials_verbatim_words :
    Describes (describingHost "hunter2") "10.0.0.1" "admin" "hunter2"
      ∧ Text.allBlank "10.0.0.1" = false
      ∧ ∃ d, ({} : Options).device (describingHost "hunter2") = .ok d ∧ d.host = "10.0.0.1"
        ∧ d.username = "admin" ∧ d.password = "hunter2" := by
  have hdescribes := describes_describingHost "hunter2"
  refine ⟨hdescribes, by decide, (credentials_verbatim_iff hdescribes (by decide)).2 ⟨?_, ?_, ?_⟩⟩
  · exact .inl (by decide +kernel)
  · exact .inl (by decide +kernel)
  · exact .inl (by decide +kernel)

/-- **A password that looks like a number is not used at all.** -/
theorem credentials_retyped :
    ¬ ∀ (h : Host) (host user password : String), Describes h host user password →
      Text.allBlank host = false →
        ∃ d, ({} : Options).device h = .ok d ∧ d.host = host ∧ d.username = user
          ∧ d.password = password := by
  intro hverbatim
  obtain ⟨d, hdevice, -⟩ := hverbatim _ _ _ _ (describes_describingHost "12345") (by decide)
  have hdescribes := describes_describingHost "12345"
  obtain ⟨_, _, _, hdescribed, -⟩ := (device_of_describes hdescribes).1 hdevice
  have hmisread : environmentProfile (describingHost "12345") = .error (.loading
      ("invalid type: found unsigned int `12345`, expected a string for key "
        ++ "\"PASSWORD\" in `MIKROTIK_` environment variable(s)")) := by
    decide +kernel
  rw [hmisread] at hdescribed
  cases hdescribed

end Cli.Options

end RouterMenu
