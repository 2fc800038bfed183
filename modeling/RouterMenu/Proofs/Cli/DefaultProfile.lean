import RouterMenu.Cli.SettingsVerb
import RouterMenu.Proofs.Settings.Load

/-!
# Another default profile

A profile of the settings can be made the default (`exists_useProfile_iff`). The verb writes the
file of settings anew, with all that the settings hold while it runs (`load_of_useProfile`), and
these come from the environment too. So nothing but the default profile changes exactly where the
variables leave defaults and profiles as they are, as they do when they lead elsewhere
(`default_alone_changes_iff`). A variable meant for one run stays in the file (`variable_stays`).
-/

namespace RouterMenu.Cli

open Settings (Layer Node Environment.layer settingsStart sways)
open Toml (entryNodes)

variable {o : Options} {h : Host} {name : String} {r : Report} {s₀ : Settings}

theorem settled_eq_ok_iff {α : Type} {x : Except SettingsError α} {a : α} :
    settled h x = .ok a ↔ x = .ok a := by
  cases x <;> simp [settled]

/-! ## Settings with another default profile -/

variable {s : Settings}

theorem withDefault_of_error {e : SettingsError} (failed : Settings.load h = .error e) :
    withDefault h name = .error (.ofSettings h.settingsPath e) := by
  rw [withDefault, failed]
  rfl

theorem withDefault_of_unknown (loaded : Settings.load h = .ok s)
    (unknown : s.profile? name = none) :
    withDefault h name = .error (.profileNotFound name (", ".intercalate s.names)) := by
  rw [withDefault, loaded]
  exact if_pos (by rw [unknown]; rfl)

theorem withDefault_of_known (loaded : Settings.load h = .ok s)
    (known : (s.profile? name).isSome = true) :
    withDefault h name = .ok { s with defaultProfile? := some name } := by
  rw [withDefault, loaded]
  exact if_neg (by simpa [Option.isNone_iff_eq_none, Option.isSome_iff_ne_none] using known)

/-- There are no settings, or they have no such profile, or they get it as their default. -/
theorem withDefault_cases (h : Host) (name : String) :
    (∃ e, Settings.load h = .error e
        ∧ withDefault h name = .error (.ofSettings h.settingsPath e))
      ∨ (∃ s, Settings.load h = .ok s ∧ s.profile? name = none
        ∧ withDefault h name = .error (.profileNotFound name (", ".intercalate s.names)))
      ∨ ∃ s, Settings.load h = .ok s ∧ (s.profile? name).isSome = true
        ∧ withDefault h name = .ok { s with defaultProfile? := some name } := by
  cases hload : Settings.load h with
  | error e => exact .inl ⟨e, rfl, withDefault_of_error hload⟩
  | ok s =>
    cases hp : s.profile? name with
    | none => exact .inr (.inl ⟨s, rfl, hp, withDefault_of_unknown hload hp⟩)
    | some p =>
      have hknown : (s.profile? name).isSome = true := by rw [hp]; rfl
      exact .inr (.inr ⟨s, rfl, hknown, withDefault_of_known hload hknown⟩)

/-- Settings with a default profile are those that were loaded, and they have that profile. -/
theorem withDefault_eq_ok_iff : withDefault h name = .ok s ↔ ∃ s', Settings.load h = .ok s'
    ∧ (s'.profile? name).isSome = true ∧ s = { s' with defaultProfile? := some name } := by
  constructor
  · intro hs
    obtain ⟨e, -, hchosen⟩ | ⟨s', -, -, hchosen⟩ | ⟨s', hload, hknown, hchosen⟩ :=
      withDefault_cases h name
    · cases hchosen.symm.trans hs
    · cases hchosen.symm.trans hs
    · exact ⟨s', hload, hknown, Except.ok.inj (hs.symm.trans hchosen)⟩
  · rintro ⟨s', hload, hknown, rfl⟩
    exact withDefault_of_known hload hknown

/-- Where the disk is sound, nothing is left of saving but the text. -/
theorem save_sound (h : Host) (s : Settings) : (Disk.sound.save h s).run = settled h s.write := by
  unfold Disk.save
  cases settled h s.write <;> rfl

theorem useProfile_eq (o : Options) (h : Host) (name : String) :
    useProfile o h name = withDefault h name >>= fun s => settled h s.write >>= fun text =>
      .ok (defaultSet o name text) := by
  unfold useProfile Disk.use
  cases withDefault h name with
  | error f => rfl
  | ok s =>
    show Id.run ((Disk.sound.save h s >>= fun text => pure (defaultSet o name text)).run)
      = settled h s.write >>= fun text => .ok (defaultSet o name text)
    rw [← save_sound]
    cases Disk.sound.save h s <;> rfl

/-- What is saved by the verb is the text of what the settings hold, with the new default. -/
theorem write_of_useProfile (used : useProfile o h name = .ok r) : ∃ s text,
    Settings.load h = .ok s ∧ (s.profile? name).isSome = true
      ∧ { s with defaultProfile? := some name : Settings }.write = .ok text
      ∧ r = defaultSet o name text := by
  rw [useProfile_eq] at used
  simp only [Settings.bind_eq_ok_iff, withDefault_eq_ok_iff, settled_eq_ok_iff] at used
  obtain ⟨_, ⟨s, hload, hknown, rfl⟩, text, hwritten, hr⟩ := used
  cases hr
  exact ⟨s, text, hload, hknown, hwritten, rfl⟩

/-- **A profile can be made the default exactly if the settings have it** and no timeout in them is
too long to be written. -/
theorem exists_useProfile_iff : (∃ r, useProfile o h name = .ok r) ↔
    ∃ s, Settings.load h = .ok s ∧ (s.profile? name).isSome = true ∧ s.isWritable = true := by
  constructor
  · rintro ⟨r, used⟩
    obtain ⟨s, text, hload, hknown, hwritten, -⟩ := write_of_useProfile used
    -- the name of the default profile has no part in whether the settings can be written
    exact ⟨s, hload, hknown, (Settings.write_eq_ok_iff.1 hwritten).1⟩
  · rintro ⟨s, hload, hknown, hwritable⟩
    have hwritten : { s with defaultProfile? := some name : Settings }.write = .ok _ :=
      Settings.write_eq_ok_iff.2 ⟨hwritable, rfl⟩
    rw [useProfile_eq, withDefault_of_known hload hknown]
    show ∃ r, settled h { s with defaultProfile? := some name : Settings }.write >>= _ = .ok r
    rw [hwritten]
    exact ⟨_, rfl⟩

/-- **Without variables, what the verb saved is loaded as what the settings held,** with the new
default. -/
theorem load_of_useProfile (used : useProfile o h name = .ok r) : ∃ s text,
    Settings.load h = .ok s ∧ r.saved? = some text
      ∧ Settings.load { h.silenced with settings? := some text }
          = .ok { s with defaultProfile? := some name } := by
  obtain ⟨s, text, hload, -, hwritten, rfl⟩ := write_of_useProfile used
  have hsorted := Settings.sorted_of_load hload
  exact ⟨s, text, hload, rfl, Settings.load_saved (fun v hv => Host.begins_of_mem_silenced hv)
    rfl hwritten rfl hsorted⟩

/-- **Nothing but the default profile changes exactly where the variables leave defaults and
profiles as they are,** and those that lead elsewhere do. -/
theorem default_alone_changes_iff (loadable : Settings.load h.silenced = .ok s₀)
    (used : useProfile o h name = .ok r) : ∃ s text,
      Settings.load h = .ok s ∧ r.saved? = some text
        ∧ (Settings.load { h.silenced with settings? := some text }
              = .ok { s₀ with defaultProfile? := some name }
            ↔ s.defaults = s₀.defaults ∧ s.profiles = s₀.profiles)
        ∧ ((∀ v ∈ h.environment, sways v.1 = false) →
            s.defaults = s₀.defaults ∧ s.profiles = s₀.profiles) := by
  obtain ⟨s, text, hload, hsaved, hafter⟩ := load_of_useProfile used
  refine ⟨s, text, hload, hsaved, ?_, fun elsewhere => ?_⟩
  · rw [hafter, Except.ok.injEq, Settings.mk.injEq]
    exact and_iff_right rfl
  · exact Settings.load_agree elsewhere hload loadable

/-- Settings with one profile, which is not the default one. -/
def labSettings : Settings where
  defaultProfile? := some "core"
  defaults := { output := "json", timeout := 60 }
  profiles := [("lab", { host := "10.0.0.1" })]

/-- A host where these settings were saved, with one variable. -/
def labHost (key value : String) : Host where
  home := "/home/ops"
  directory := "/home/ops"
  environment := [("HOME", "/home/ops"), (key, value)]
  settings? := some (String.ofList labSettings.lines)

theorem write_lab : labSettings.write = .ok (String.ofList labSettings.lines) :=
  Settings.write_eq_ok_iff.2 ⟨by decide, rfl⟩

theorem sorted_lab : (labSettings.profiles.map Prod.fst).Pairwise (· < ·) := by decide

theorem load_silenced_lab (key value : String) :
    Settings.load (labHost key value).silenced = .ok labSettings :=
  Settings.load_saved (fun _ hv => Host.begins_of_mem_silenced hv) rfl write_lab rfl sorted_lab

/-- What these settings become under a variable is what it says laid over their entries. -/
theorem load_lab {key value : String} {v : Node} {s : Settings}
    (layered : Environment.layer settingsStart true (labHost key value).environment = v)
    (laid : ∀ l, Settings.ofNode ((Node.table l (entryNodes l [] labSettings.items)).overlay v)
      = .ok s) : Settings.load (labHost key value) = .ok s := by
  obtain ⟨l, hload⟩ :=
    Settings.load_eq_of_saved (h := labHost key value) rfl write_lab rfl sorted_lab
  rw [hload, layered, laid, Settings.checked]

theorem load_lab_default : Settings.load (labHost "TIKLY_DEFAULT_PROFILE" "spare")
    = .ok { labSettings with defaultProfile? := some "spare" } := by
  let l := Layer.environment settingsStart
  have hlayer : Environment.layer settingsStart true
      (labHost "TIKLY_DEFAULT_PROFILE" "spare").environment
        = .table l [("default_profile", .text l "spare")] := rfl
  refine load_lab hlayer fun l => ?_
  rw [Settings.entryNodes_items rfl sorted_lab]
  rfl

theorem load_lab_timeout : Settings.load (labHost "TIKLY_DEFAULTS__TIMEOUT" "5")
    = .ok { labSettings with defaults.timeout := 5 } := by
  let l := Layer.environment settingsStart
  have hlayer : Environment.layer settingsStart true
      (labHost "TIKLY_DEFAULTS__TIMEOUT" "5").environment
        = .table l [("defaults", .table l [("timeout", .unsigned l 5)])] := rfl
  refine load_lab hlayer fun l => ?_
  rw [Settings.entryNodes_items rfl sorted_lab]
  rfl

/-- A variable for another default profile leaves all the rest alone. -/
theorem default_alone_changes_lab :
    Settings.load (labHost "TIKLY_DEFAULT_PROFILE" "spare").silenced = .ok labSettings
      ∧ ∃ r text, useProfile {} (labHost "TIKLY_DEFAULT_PROFILE" "spare") "lab" = .ok r
        ∧ r.saved? = some text
        ∧ Settings.load
            { (labHost "TIKLY_DEFAULT_PROFILE" "spare").silenced with settings? := some text }
          = .ok { labSettings with defaultProfile? := some "lab" } := by
  have hloadable := load_silenced_lab "TIKLY_DEFAULT_PROFILE" "spare"
  have hload := load_lab_default
  have hlab : ∃ r, useProfile {} (labHost "TIKLY_DEFAULT_PROFILE" "spare") "lab" = .ok r :=
    exists_useProfile_iff.2 ⟨_, hload, rfl, by decide⟩
  obtain ⟨r, hused⟩ := hlab
  obtain ⟨s, text, hs, hsaved, hkept, -⟩ := default_alone_changes_iff hloadable hused
  rw [hload] at hs
  cases hs
  exact ⟨hloadable, r, text, hused, hsaved, hkept.2 ⟨rfl, rfl⟩⟩

/-- **A variable meant for one run stays in the file.** -/
theorem variable_stays :
    ¬ ∀ (o : Options) (h : Host) (name : String) (s₀ : Settings) (r : Report),
      Settings.load h.silenced = .ok s₀ → useProfile o h name = .ok r →
        ∃ text, r.saved? = some text ∧ Settings.load { h.silenced with settings? := some text }
          = .ok { s₀ with defaultProfile? := some name } := by
  intro hchanges
  have hload := load_lab_timeout
  have hlab : ∃ r, useProfile {} (labHost "TIKLY_DEFAULTS__TIMEOUT" "5") "lab" = .ok r :=
    exists_useProfile_iff.2 ⟨_, hload, rfl, by decide⟩
  obtain ⟨r, hused⟩ := hlab
  obtain ⟨text, hsaved, hafter⟩ := hchanges _ _ _ _ _ (load_silenced_lab _ _) hused
  obtain ⟨s, text', hs, hsaved', hafter'⟩ := load_of_useProfile hused
  cases hsaved.symm.trans hsaved'
  cases hload.symm.trans hs
  -- the timeout of the variable is now in the file
  have heq := Except.ok.inj (hafter.symm.trans hafter')
  exact absurd (congrArg (fun s => s.defaults.timeout) heq) (by decide)

end RouterMenu.Cli
