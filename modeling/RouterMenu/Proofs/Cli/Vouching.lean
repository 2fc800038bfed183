import RouterMenu.Proofs.Cli.Precedence

/-!
# Who vouches for a device

Where a command line names a list of authorities, the device is checked against that list, unless
the profile it starts from waives certificates (`vouched_by_named_authorities`). The option takes
the place of the list in the profile, but it leaves the waiver of the profile as it is, and a waiver
outweighs every list. So there are command lines that name a list and still accept any certificate
(`unvouched_despite_authorities`).
-/

namespace RouterMenu.Cli.Options

variable {o : Options} {h : Host} {d : Device}

/-- Whether any certificate will do. -/
def waives (o : Options) (p : Profile) : Bool := o.insecure || p.insecure?.getD false

/-- Who vouches for the device of a profile under the options, if the stream to it is secured. -/
theorem trust?_overlay_of_secures {p : Profile} (secured : o.secures p = true) :
    (o.overlay p).trust? = some (if o.waives p then .anyone
      else match o.authorities?.or p.authorities? with
        | some path => .authorities path
        | none => .system) := by
  have htls : (o.overlay p).tls = true := secured
  have hinsecure : (o.overlay p).insecure?.getD false = o.waives p := by
    rw [overlay, waives]
    cases o.insecure <;> rfl
  have hauthorities : (o.overlay p).authorities? = o.authorities?.or p.authorities? := rfl
  rw [Profile.trust?, htls, hinsecure, hauthorities]
  cases o.waives p with
  | true => rfl
  | false => cases o.authorities?.or p.authorities? <;> rfl

/-- A device that is built comes from a profile to start from. -/
theorem exists_starts_of_ok (built : o.device h = .ok d) :
    ∃ s name p, Settings.load h = .ok s ∧ o.Starts h s name p
      ∧ d.trust? = (o.overlay p).trust? := by
  cases hload : Settings.load h with
  | error e =>
    rw [device, hload] at built
    simp [settled, bind, Except.bind] at built
  | ok s =>
    have hfailed (f : Failure) (hchoose : o.choose h s = .error f) : False := by
      rw [device_of_choose_error hload hchoose] at built
      cases built
    -- of the four ways to start only the first gives a device
    obtain ⟨name, p, hstarts⟩ | ⟨_, -, -, hchoose⟩ | ⟨-, -, -, hchoose⟩ | ⟨-, _, -, hchoose⟩ :=
      choose_cases o h s
    · refine ⟨s, name, p, rfl, hstarts, ?_⟩
      rw [device_of_starts hload hstarts, device_overlay] at built
      split at built
      · cases built
      · split at built
        · cases built
          rfl
        · cases built
    · exact (hfailed _ hchoose).elim
    · exact (hfailed _ hchoose).elim
    · exact (hfailed _ hchoose).elim

/-- **A list of authorities on the command line counts exactly where the profile does not waive
certificates,** whatever else the settings and the environment say. Where it does, any certificate
will do. -/
theorem vouched_by_named_authorities {path : String} (named : o.authorities? = some path)
    (unwaived : o.insecure = false) (built : o.device h = .ok d) :
    ∃ s name p, Settings.load h = .ok s ∧ o.Starts h s name p
      ∧ (d.trust? = some (.authorities path) ↔ p.insecure? ≠ some true)
      ∧ (d.trust? = some .anyone ↔ p.insecure? = some true) := by
  obtain ⟨s, name, p, hload, hstarts, htrust⟩ := exists_starts_of_ok built
  have hsecured : o.secures p = true := by
    rw [secures, named]
    simp
  -- no flag waives the check here, so it is waived only where the profile does
  have hwaives : o.waives p = true ↔ p.insecure? = some true := by
    rw [waives, unwaived, Bool.false_or]
    cases p.insecure? with
    | none => decide
    | some b => simp
  refine ⟨s, name, p, hload, hstarts, ?_⟩
  rw [htrust, trust?_overlay_of_secures hsecured, named]
  simp only [ne_eq, ← hwaives]
  cases o.waives p <;> simp

/-- A host with a default profile that waives certificates, or does not. -/
def labHostWith (waiver : String) : Host where
  home := "/home/ops"
  directory := "/home/ops"
  settings? := some ("default_profile = \"lab\"\n[profiles.lab]\nhost = \"10.0.0.1\"\n"
    ++ "username = \"admin\"\npassword = \"hunter2\"\ntls = true\ninsecure = " ++ waiver ++ "\n")

/-- The profile in the settings of this host. -/
def labWith (insecure : Bool) : Profile where
  host := "10.0.0.1"
  username? := some "admin"
  password? := some "hunter2"
  tls := true
  insecure? := some insecure

/-- The device of this profile. -/
def labDevice (trust : Trust) : Device where
  host := "10.0.0.1"
  username := "admin"
  password := "hunter2"
  trust? := some trust

/-- A command line that names a list of authorities and nothing else. -/
def namesRouter : Options where
  authorities? := some "/etc/ssl/router.pem"

theorem device_namesRouter (waiver : String) (b : Bool)
    (loaded : Settings.load (labHostWith waiver)
      = .ok { defaultProfile? := some "lab", profiles := [("lab", labWith b)] }) :
    namesRouter.device (labHostWith waiver)
      = .ok (labDevice (if b then .anyone else .authorities "/etc/ssl/router.pem")) := by
  have hstarts : namesRouter.Starts (labHostWith waiver)
      { defaultProfile? := some "lab", profiles := [("lab", labWith b)] } "lab" (labWith b) :=
    .default rfl rfl rfl
  rw [device_of_starts loaded hstarts]
  cases b <;> rfl

/-- Without a waiver in the profile, the list on the command line counts. -/
theorem vouched_without_waiver :
    namesRouter.device (labHostWith "false")
        = .ok (labDevice (.authorities "/etc/ssl/router.pem"))
      ∧ ∃ s name p, Settings.load (labHostWith "false") = .ok s
        ∧ namesRouter.Starts (labHostWith "false") s name p ∧ p.insecure? ≠ some true := by
  have hbuilt := device_namesRouter "false" false (by decide +kernel)
  obtain ⟨s, name, p, hload, hstarts, hvouched, -⟩ := vouched_by_named_authorities rfl rfl hbuilt
  exact ⟨hbuilt, s, name, p, hload, hstarts, hvouched.1 rfl⟩

/-- **A list of authorities on the command line can count for nothing.** -/
theorem unvouched_despite_authorities :
    ¬ ∀ (o : Options) (h : Host) (d : Device) (path : String), o.authorities? = some path →
      o.insecure = false → o.device h = .ok d → d.trust? = some (.authorities path) := by
  intro hcounts
  have hbuilt := device_namesRouter "true" true (by decide +kernel)
  have htrust := hcounts namesRouter (labHostWith "true") _ "/etc/ssl/router.pem" rfl rfl hbuilt
  exact absurd htrust (by decide)

end RouterMenu.Cli.Options
