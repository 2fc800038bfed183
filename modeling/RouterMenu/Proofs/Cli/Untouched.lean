import RouterMenu.Proofs.Cli.DefaultProfile

/-!
# A verb that fails leaves the files alone

The settings are loaded, changed and turned into text before the file is opened for writing. So
whatever stops the verb that makes a profile the default, no file has changed by then (`use_eq`);
only the writing itself can fail with the file in its hands. What stops it is listed by `Stopped`:
settings that cannot be loaded, from bytes that are no text (`load_of_no_text`) or from variables
that do not fit, a name that no profile has, a directory that cannot be made, and a timeout too long
to be written.

The disk is one on which anything may fail (`Faults.disk`). Where it is sound the verb comes to what
is reported of it (`use_of_sound`), and like every verb of the settings it then leaves nothing
behind if it fails (`report_of_failed`).
-/

namespace RouterMenu.Cli

open Settings (Layer Environment.layer settingsStart)

/-! ## Disks with faults -/

/-- The files of a disk by their paths, with their bytes. -/
abbrev Files := String → Option (List UInt8)

/-- The files with another one at a path, or none. -/
def Files.put (files : Files) (path : String) (bytes? : Option (List UInt8)) : Files :=
  fun p => if p = path then bytes? else files p

/-- Why what is done at a path fails, if it does. -/
structure Faults where
  read? : String → Option String := fun _ => none
  makeDirectory? : String → Option String := fun _ => none
  /-- A file that could not be written may be left in any state. -/
  write? : String → Option (String × Option (List UInt8)) := fun _ => none

namespace Faults

variable (x : Faults)

/-- What reading a file comes to. -/
def found (files : Files) (path : String) : Except String (Option (List UInt8)) :=
  match x.read? path with
  | some reason => .error reason
  | none => .ok (files path)

/-- What making a directory comes to. It is not among the files. -/
def made (path : String) : Except String Unit :=
  match x.makeDirectory? path with
  | some reason => .error reason
  | none => .ok ()

/-- What writing a file comes to, and the files after it. -/
def written (path text : String) (files : Files) : Except String Unit × Files :=
  match x.write? path with
  | some (reason, left?) => (.error reason, files.put path left?)
  | none => (.ok (), files.put path (some (Text.Utf8.encode text)))

/-- A disk on which these faults occur. -/
def disk : Disk (StateM Files) where
  read path := fun files => (x.found files path, files)
  makeDirectory path := fun files => (x.made path, files)
  write path text := x.written path text

/-- What comes of the verb, and the files after it. -/
def use (files : Files) (h : Host) (o : Options) (name : String) : Except Failure Report × Files :=
  (do (x.disk.use o (← x.disk.host h) name).run : StateM Files _).run files

end Faults

/-! ## What a file holds -/

variable {x : Faults} {files : Files} {h : Host} {o : Options} {name : String} {s : Settings}
  {f : Failure}

theorem fileText_encode (text : String) : fileText (Text.Utf8.encode text) = text := by
  have hbytes : (⟨(Text.Utf8.encode text).toArray⟩ : ByteArray) = text.toByteArray := by
    simp [Text.Utf8.encode]
  rw [fileText, hbytes, String.fromUTF8?, dif_pos text.isValidUTF8]
  rfl

theorem fileText_of_not_valid {bytes : List UInt8}
    (h : ¬ (⟨bytes.toArray⟩ : ByteArray).IsValidUTF8) : fileText bytes = noText := by
  rw [fileText, String.fromUTF8?, dif_neg h]
  rfl

theorem load_of_noText (unreadable : h.settings? = some noText) :
    Settings.load h = .error (.loading Settings.badFile) := by
  have hread : Toml.read noText = none := by decide +kernel
  rw [Settings.load, Settings.tree, unreadable, Settings.fileLayer, hread]
  rfl

/-- **Bytes that are no text, or cannot be read, are no settings.** -/
theorem load_of_no_text {found : Except String (Option (List UInt8))}
    (textless : (∃ reason, found = .error reason)
      ∨ ∃ bytes, found = .ok (some bytes) ∧ ¬ (⟨bytes.toArray⟩ : ByteArray).IsValidUTF8) :
    Settings.load (hostWith h found) = .error (.loading Settings.badFile) := by
  refine load_of_noText ?_
  obtain ⟨reason, rfl⟩ | ⟨bytes, rfl, hbytes⟩ := textless
  · rfl
  · exact congrArg some (fileText_of_not_valid hbytes)

/-! ## What comes before the writing -/

namespace Faults

/-- The text of settings, where the directory for it can be made. -/
def textFor (x : Faults) (h : Host) (s : Settings) : Except Failure String := do
  (x.made (ownDirectory h)).mapError fun reason => .ofSettings h.settingsPath (.io reason)
  settled h s.write

/-- All that happens before the file is written: the text for it, or what stops the verb. -/
def prepared (x : Faults) (h : Host) (name : String) : Except Failure String := do
  x.textFor h (← withDefault h name)

end Faults

/-- What stops the verb before the file is written. -/
inductive Stopped (x : Faults) (h : Host) (name : String) : Failure → Prop where
  | unloadable {e : SettingsError} (failed : Settings.load h = .error e) :
      Stopped x h name (.ofSettings h.settingsPath e)
  | unknown {s : Settings} (loaded : Settings.load h = .ok s) (unknown : s.profile? name = none) :
      Stopped x h name (.profileNotFound name (", ".intercalate s.names))
  | homeless {s : Settings} {reason : String} (loaded : Settings.load h = .ok s)
      (known : (s.profile? name).isSome = true)
      (fault : x.makeDirectory? (ownDirectory h) = some reason) :
      Stopped x h name (.ofSettings h.settingsPath (.io reason))
  | unwritable {s : Settings} (loaded : Settings.load h = .ok s)
      (known : (s.profile? name).isSome = true)
      (sound : x.makeDirectory? (ownDirectory h) = none)
      (long : Text.maxI64 < s.defaults.timeout
        ∨ ∃ e ∈ s.profiles, ∃ t ∈ e.2.timeout?, Text.maxI64 < t) :
      Stopped x h name (.ofSettings h.settingsPath (.serialization Settings.outOfRange))

theorem prepared_of_withDefault (chosen : withDefault h name = .ok s) :
    x.prepared h name = x.textFor h s := by
  rw [Faults.prepared, chosen]
  rfl

theorem prepared_of_known (loaded : Settings.load h = .ok s)
    (known : (s.profile? name).isSome = true) :
    x.prepared h name = match x.makeDirectory? (ownDirectory h) with
      | some reason => .error (.ofSettings h.settingsPath (.io reason))
      | none => settled h { s with defaultProfile? := some name : Settings }.write := by
  rw [prepared_of_withDefault (withDefault_of_known loaded known), Faults.textFor, Faults.made]
  cases x.makeDirectory? (ownDirectory h) <;> rfl

/-- **The verb is stopped for these reasons** and for no other. -/
theorem prepared_eq_error_iff : x.prepared h name = .error f ↔ Stopped x h name f := by
  constructor
  · intro stopped
    -- the steps in their order; the first that fails is where the verb stops
    obtain ⟨e, hload, hchosen⟩ | ⟨s, hload, hp, hchosen⟩ | ⟨s, hload, hknown, -⟩ :=
      withDefault_cases h name
    · rw [Faults.prepared, hchosen] at stopped
      cases stopped
      exact .unloadable hload
    · rw [Faults.prepared, hchosen] at stopped
      cases stopped
      exact .unknown hload hp
    · rw [prepared_of_known hload hknown] at stopped
      cases hmade : x.makeDirectory? (ownDirectory h) with
      | some reason =>
        rw [hmade] at stopped
        cases stopped
        exact .homeless hload hknown hmade
      | none =>
        rw [hmade] at stopped
        cases hwrite : { s with defaultProfile? := some name : Settings }.write with
        | ok text =>
          rw [hwrite] at stopped
          cases stopped
        | error e =>
          rw [hwrite] at stopped
          cases stopped
          obtain ⟨hlong, rfl⟩ := Settings.write_eq_error_iff.1 hwrite
          exact .unwritable hload hknown hmade (Settings.not_isWritable_iff.1 hlong)
  · intro stopped
    cases stopped with
    | unloadable failed =>
      rw [Faults.prepared, withDefault_of_error failed]
      rfl
    | unknown loaded unknown =>
      rw [Faults.prepared, withDefault_of_unknown loaded unknown]
      rfl
    | homeless loaded known fault => rw [prepared_of_known loaded known, fault]
    | @unwritable s loaded known sound long =>
      have hwrite : { s with defaultProfile? := some name : Settings }.write = .error _ :=
        Settings.write_eq_error_iff.2 ⟨Settings.not_isWritable_iff.2 long, rfl⟩
      rw [prepared_of_known loaded known, sound, hwrite]
      rfl

/-! ## The verb on a disk -/

theorem host_run (x : Faults) (files : Files) (h : Host) :
    (x.disk.host h).run files = (hostWith h (x.found files h.settingsPath), files) := rfl

/-- Settings are written when their text is there. -/
theorem save_eq (x : Faults) (files : Files) (h : Host) (s : Settings) :
    (x.disk.save h s).run.run files = match x.textFor h s with
      | .error f => (.error f, files)
      | .ok text =>
        match x.write? h.settingsPath with
        | some (reason, left?) =>
          (.error (.ofSettings h.settingsPath (.io reason)), files.put h.settingsPath left?)
        | none => (.ok text, files.put h.settingsPath (some (Text.Utf8.encode text))) := by
  have hmake : x.disk.makeDirectory (ownDirectory h) =
      fun files => (x.made (ownDirectory h), files) := rfl
  have hwrite : x.disk.write h.settingsPath = x.written h.settingsPath := rfl
  rw [Disk.save, Faults.textFor, hmake, hwrite]
  cases x.made (ownDirectory h) with
  | error reason => rfl
  | ok u =>
    cases settled h s.write with
    | error f => rfl
    | ok text =>
      unfold Faults.written
      cases x.write? h.settingsPath <;> rfl

/-- **The file is written if nothing has stopped the verb**, and no file has changed before. -/
theorem use_eq (x : Faults) (files : Files) (h₀ : Host) (o : Options) (name : String) :
    let h := hostWith h₀ (x.found files h₀.settingsPath)
    x.use files h₀ o name = match x.prepared h name with
      | .error f => (.error f, files)
      | .ok text =>
        match x.write? h.settingsPath with
        | some (reason, left?) =>
          (.error (.ofSettings h.settingsPath (.io reason)), files.put h.settingsPath left?)
        | none => (.ok (defaultSet o name text),
          files.put h.settingsPath (some (Text.Utf8.encode text))) := by
  intro h
  have huse : x.use files h₀ o name = (x.disk.use o h name).run.run files := by
    rw [Faults.use, StateT.run_bind, host_run]
    rfl
  rw [huse, Disk.use]
  cases hchosen : withDefault h name with
  | error f =>
    rw [Faults.prepared, hchosen]
    rfl
  | ok s =>
    rw [prepared_of_withDefault hchosen]
    -- what is left to do is to save them, and to report it
    have hsave : (do return defaultSet o name (← x.disk.save h s) :
        ExceptT Failure (StateM Files) Report).run.run files
          = (((x.disk.save h s).run.run files).1.map (defaultSet o name),
            ((x.disk.save h s).run.run files).2) := by
      simp
      rfl
    refine hsave.trans ?_
    rw [save_eq]
    cases x.textFor h s with
    | error f => rfl
    | ok text => cases x.write? h.settingsPath <;> rfl

/-- Where nothing is wrong with the disk, what comes of the verb is its report. -/
theorem use_of_sound (sound : ∀ path, x.makeDirectory? path = none ∧ x.write? path = none)
    (files : Files) (h₀ : Host) (o : Options) (name : String) :
    (x.use files h₀ o name).1 =
      useProfile o (hostWith h₀ (x.found files h₀.settingsPath)) name := by
  rw [use_eq, useProfile_eq]
  generalize hostWith h₀ (x.found files h₀.settingsPath) = h
  cases hchosen : withDefault h name with
  | error f =>
    rw [Faults.prepared, hchosen]
    rfl
  | ok s =>
    -- making the directory cannot fail, so the text is all that is left to fail
    have htext : x.textFor h s = settled h s.write := by
      rw [Faults.textFor, Faults.made, (sound _).1]
      rfl
    rw [prepared_of_withDefault hchosen, htext, (sound _).2]
    cases hwritten : settled h s.write with
    | error f =>
      show Except.error f = settled h s.write >>= _
      rw [hwritten]
      rfl
    | ok text =>
      show Except.ok _ = settled h s.write >>= _
      rw [hwritten]
      rfl

/-- **A verb that fails before it writes leaves every file as it was,** byte for byte, and absent if
it was absent, whatever the file of settings holds and whatever the environment says. It is stopped
if the settings cannot be loaded, have no such profile or have no text, or if there is no place for
the file; any other failure is one of the writing itself. A verb that succeeds has put its text into
the file of settings and has changed no other. -/
theorem failed_use_leaves_files (x : Faults) (files : Files) (h₀ : Host) (o : Options)
    (name : String) :
    let h := hostWith h₀ (x.found files h₀.settingsPath)
    let r := x.use files h₀ o name
    (∀ f, Stopped x h name f → r = (.error f, files))
      ∧ (∀ f, r.1 = .error f → Stopped x h name f
        ∨ (¬ ∃ f, Stopped x h name f) ∧ ∃ reason left?,
          x.write? h.settingsPath = some (reason, left?)
            ∧ f = .ofSettings h.settingsPath (.io reason))
      ∧ ∀ report, r.1 = .ok report → ∃ text, report = defaultSet o name text
          ∧ r.2 = files.put h.settingsPath (some (Text.Utf8.encode text)) := by
  intro h r
  have hr : r = _ := use_eq x files h₀ o name
  simp only [← prepared_eq_error_iff]
  rw [hr]
  -- whatever stops the verb before the write leaves the files alone
  cases hprepared : x.prepared h name with
  | error f =>
    refine ⟨fun f' hf' => ?_, fun f' hf' => .inl ?_, fun report hreport => ?_⟩
    · cases hf'
      rfl
    · cases hf'
      rfl
    · cases hreport
  | ok text =>
    refine ⟨fun f' hf' => (by cases hf'), fun f' hf' => .inr ⟨?_, ?_⟩, fun report hreport => ?_⟩
    · rintro ⟨f, hf⟩
      cases hf
    · -- from here on only the write itself can fail
      cases hwrite : x.write? h.settingsPath with
      | none =>
        rw [hwrite] at hf'
        cases hf'
      | some fault =>
        rw [hwrite] at hf'
        cases hf'
        exact ⟨fault.1, fault.2, rfl, rfl⟩
    · cases hwrite : x.write? h.settingsPath with
      | some fault =>
        rw [hwrite] at hreport
        cases hreport
      | none =>
        rw [hwrite] at hreport
        cases hreport
        exact ⟨text, rfl, rfl⟩

theorem load_lab_long :
    Settings.load (labHost "TIKLY_DEFAULTS__TIMEOUT" "9223372036854775808")
      = .ok { labSettings with defaults.timeout := 9223372036854775808 } := by
  let l := Layer.environment settingsStart
  have hlayer : Environment.layer settingsStart true
      (labHost "TIKLY_DEFAULTS__TIMEOUT" "9223372036854775808").environment
        = .table l [("defaults", .table l [("timeout", .unsigned l 9223372036854775808)])] := rfl
  refine load_lab hlayer fun l => ?_
  rw [Settings.entryNodes_items rfl sorted_lab]
  rfl

/-- A variable brings a timeout that no file can hold. -/
theorem failed_use_leaves_files_lab :
    let h := labHost "TIKLY_DEFAULTS__TIMEOUT" "9223372036854775808"
    let files := Files.put (fun _ => none) h.settingsPath
      (some (Text.Utf8.encode (String.ofList labSettings.lines)))
    ({} : Faults).use files h {} "lab"
      = (.error (.config (.serialization Settings.outOfRange)), files) := by
  intro h files
  have hh : hostWith h (({} : Faults).found files h.settingsPath) = h := by
    have hfile : files h.settingsPath
      = some (Text.Utf8.encode (String.ofList labSettings.lines)) := if_pos rfl
    show { h with settings? := (files h.settingsPath).map fileText } = h
    rw [hfile, Option.map_some, fileText_encode]
    rfl
  have hstopped := (failed_use_leaves_files {} files h {} "lab").1
  rw [hh] at hstopped
  exact hstopped _ (.unwritable load_lab_long rfl rfl (.inl (by decide)))

/-! ## What the verbs of the settings leave behind -/

variable {c : Console} {verb : SettingsVerb}

/-- **A verb of the settings that fails leaves nothing behind** but its failure: no output, no file
and no entry of the keyring. -/
theorem report_of_failed (failed : (verb.report c o).failure? = some f) :
    verb.report c o = .failed f := by
  -- what ends in a report that is no failure fails only with its own failure
  have hreported {x : Except Failure Report} (sound : ∀ r, x = .ok r → r.failure? = none)
      (failed : (reported x).failure? = some f) : reported x = .failed f := by
    cases x with
    | ok r =>
      rw [reported, sound r rfl] at failed
      cases failed
    | error e =>
      cases failed
      rfl
  cases verb with
  | path => simp [SettingsVerb.report] at failed
  | profiles => simp [SettingsVerb.report] at failed
  | «show» =>
    refine hreported (fun r hr => ?_) failed
    obtain ⟨text, -, rfl⟩ := Settings.map_eq_ok_iff.1 hr
    exact Report.failure?_show o text
  | use name =>
    refine hreported (fun r hr => ?_) failed
    obtain ⟨s, text, -, -, -, rfl⟩ := write_of_useProfile hr
    exact Report.failure?_remark ..
  | setPassword profile? =>
    refine hreported (fun r hr => ?_) failed
    unfold keepPassword at hr
    split at hr
    all_goals cases hr
    exact Report.failure?_remark ..

/-- **A secret is put into the keyring only by the verb for that,** if one was typed and the keyring
takes it. -/
theorem kept?_report_iff {entry : String × String} : (verb.report c o).kept? = some entry ↔
    ∃ profile? secret, verb = .setPassword profile? ∧ c.password = .ok secret ∧ c.keyring? = none
      ∧ entry = (passwordEntry (profile?.getD (o.profileName (Settings.loadOrDefault c.toHost))),
        secret) := by
  cases verb with
  | path => simp [SettingsVerb.report]
  | profiles => simp [SettingsVerb.report]
  | «show» =>
    simp only [SettingsVerb.report]
    cases settled c.toHost (renderSettings (Settings.loadOrDefault c.toHost).masked o.output) <;>
      simp [reported, Except.map, Report.failed]
  | use name =>
    simp only [SettingsVerb.report]
    cases hused : useProfile o c.toHost name with
    | error e => simp [reported, Report.failed]
    | ok r =>
      obtain ⟨s, text, -, -, -, rfl⟩ := write_of_useProfile hused
      simp [reported, defaultSet]
  | setPassword profile? =>
    simp only [SettingsVerb.report, keepPassword]
    cases c.password with
    | error reason => simp [reported, Report.failed]
    | ok password =>
      cases c.keyring? with
      | none => simp [reported, eq_comm]
      | some fault => cases fault <;> simp [reported, Report.failed]
end RouterMenu.Cli
