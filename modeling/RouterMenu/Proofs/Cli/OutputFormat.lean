import RouterMenu.Cli.Plan
import RouterMenu.Proofs.Settings.Load

/-!
# In which format results are shown

A command line names the format of its results, or a variable does; if neither does it is the
table. The settings have a default for the format as they have one for the timeout, but nothing
asks for it: so it counts only where it names the table anyway.
-/

namespace RouterMenu.Cli

open Settings (bind_eq_ok_iff)

/-! ## Where values come from -/

namespace Level

/-- A parameter that may stand on a level or on one within it. -/
inductive Offers : Level → Parameter → Prop where
  | here {l : Level} {p : Parameter} (own : p ∈ l.parameters) : Offers l p
  | within {l sub : Level} {p : Parameter} (inner : sub ∈ l.subs) (offered : Offers sub p) :
      Offers l p

end Level

namespace Scan

/-- Reading words adds nothing but what the command line says. -/
def Grows (s s' : Scan) : Prop := ∀ m ∈ s'.found, m ∈ s.found ∨ m.source = .commandLine

theorem Grows.of_found {s s' : Scan} (h : s'.found = s.found) : s.Grows s' :=
  fun _ hm => .inl (h ▸ hm)

theorem Grows.trans {s t u : Scan} (first : s.Grows t) (second : t.Grows u) : s.Grows u := by
  intro m hm
  rcases second m hm with h | h
  · exact first m h
  · exact .inr h

variable {s s' : Scan} {l : Level} {p : Parameter}

/-- What is entered is the value of the parameter, and from where it is said to be. -/
theorem found_of_enter {source : Source} {value? : Option String}
    (h : s.enter p source value? = .ok s') :
    ∀ m ∈ s'.found, m ∈ s.found ∨ m.name = p.name ∧ m.source = source := by
  intro m hm
  have hadded (before : List Match) (value : Given)
      (hfound : s'.found = before ++ [⟨p.name, source, value⟩]) (hbefore : before ⊆ s.found) :
      m ∈ s.found ∨ m.name = p.name ∧ m.source = source := by
    rw [hfound, List.mem_append, List.mem_singleton] at hm
    rcases hm with hm | rfl
    · exact .inl (hbefore hm)
    · exact .inr ⟨rfl, rfl⟩
  -- a counted flag replaces its match, every other entry adds one or changes nothing
  unfold enter at h
  split at h
  · cases h
    exact hadded _ _ rfl List.filter_sublist.subset
  · cases h
    exact .inl hm
  · cases h
    exact .inl hm
  · split at h
    · cases h
    · split at h
      · cases h
      · cases value? with
        | none =>
          cases h
          exact hadded _ .flag rfl (List.Subset.refl _)
        | some text =>
          simp only [bind_eq_ok_iff] at h
          obtain ⟨value, -, h⟩ := h
          cases h
          exact hadded _ value rfl (List.Subset.refl _)

theorem grows_enter {value? : Option String} (h : s.enter p .commandLine value? = .ok s') :
    s.Grows s' := by
  intro m hm
  rcases found_of_enter h m hm with hm | ⟨-, hm⟩
  · exact .inl hm
  · exact .inr hm

theorem grows_resolve (h : s.resolve = .ok s') : s.Grows s' := by
  unfold resolve at h
  split at h
  · cases h
    exact .of_found rfl
  · exact Grows.trans (t := { s with pending? := none }) (.of_found rfl) (grows_enter h)

theorem grows_give {value? : Option String} (h : s.give p value? = .ok s') : s.Grows s' := by
  rw [give, bind_eq_ok_iff] at h
  obtain ⟨t, ht, h⟩ := h
  refine (grows_resolve ht).trans ?_
  split at h
  · cases h
  · cases h
  · rw [bind_eq_ok_iff] at h
    obtain ⟨u, hu, h⟩ := h
    cases h
    exact (grows_enter hu).trans (.of_found rfl)

theorem grows_await (h : s.await p = .ok s') : s.Grows s' := by
  rw [await, bind_eq_ok_iff] at h
  obtain ⟨t, ht, h⟩ := h
  cases h
  exact (grows_resolve ht).trans (.of_found rfl)

theorem grows_long {body : List Char} (h : s.long l body = .ok s') : s.Grows s' := by
  unfold long at h
  split at h
  split at h
  · cases h
  · split at h
    · split at h
      · exact grows_give h
      · exact grows_await h
    · split at h
      · cases h
      · exact grows_give h

theorem grows_shorts {letters : List Char} (h : s.shorts l letters = .ok s') : s.Grows s' := by
  induction letters generalizing s with
  | nil =>
    cases h
    exact .of_found rfl
  | cons c rest ih =>
    unfold shorts at h
    split at h
    · cases h
    · split at h
      · split at h
        · exact grows_await h
        · exact grows_give h
        · exact grows_give h
      · rw [bind_eq_ok_iff] at h
        obtain ⟨t, ht, h⟩ := h
        exact (grows_give ht).trans (ih h)

theorem grows_dashed {w : List Char} (h : s.dashed? l w = .ok (some s')) : s.Grows s' := by
  have hmapped {x : Except UsageError Scan} (h : x.map some = .ok (some s')) : x = .ok s' := by
    cases x with
    | error e => cases h
    | ok t =>
      cases h
      rfl
  unfold dashed? at h
  split at h
  · cases h
    exact .of_found rfl
  · exact grows_long (hmapped h)
  · exact grows_shorts (hmapped h)
  · cases h

theorem grows_plain {w : String} (h : s.plain l w = .ok s') : s.Grows s' := by
  unfold plain at h
  split at h
  · cases h
    exact .of_found rfl
  · rw [bind_eq_ok_iff] at h
    obtain ⟨t, ht, h⟩ := h
    cases h
    exact (grows_resolve ht).trans (.of_found rfl)
  · split at h
    · cases h
    · split at h <;> cases h

/-- **A word says what it says on the command line.** -/
theorem grows_word {w : String} (h : s.word l w = .ok s') : s.Grows s' := by
  unfold word at h
  split at h
  · exact grows_plain h
  · rw [bind_eq_ok_iff] at h
    obtain ⟨t?, ht, h⟩ := h
    cases t? with
    | none => exact grows_plain h
    | some t =>
      cases h
      exact grows_dashed ht

theorem exists_enter_of_fillIn {env : List (String × String)} {ps : List Parameter}
    (h : fillIn env s (p :: ps) = .ok s') : ∃ t, fillIn env t ps = .ok s' ∧ (t = s
      ∨ ∃ value, p.environment?.bind (env.lookup ·) = some value
        ∧ s.enter p .environment (some value) = .ok t) := by
  rw [fillIn] at h
  split at h
  · exact ⟨s, h, .inl rfl⟩
  · split at h
    · next value hvalue =>
      rw [bind_eq_ok_iff] at h
      obtain ⟨t, ht, h⟩ := h
      exact ⟨t, h, .inr ⟨value, hvalue, ht⟩⟩
    · exact ⟨s, h, .inl rfl⟩

/-- The environment fills in what it has a variable for. -/
theorem found_of_fillIn {env : List (String × String)} {ps : List Parameter}
    (h : fillIn env s ps = .ok s') : ∀ m ∈ s'.found, m ∈ s.found
      ∨ ∃ p ∈ ps, m.name = p.name ∧ p.environment?.bind (env.lookup ·) ≠ none := by
  induction ps generalizing s with
  | nil =>
    cases h
    exact fun m hm => .inl hm
  | cons p ps ih =>
    obtain ⟨t, hrest, rfl | ⟨value, hvalue, ht⟩⟩ := exists_enter_of_fillIn h
    · intro m hm
      rcases ih hrest m hm with hm | ⟨q, hq, hm⟩
      · exact .inl hm
      · exact .inr ⟨q, List.mem_cons_of_mem _ hq, hm⟩
    · intro m hm
      rcases ih hrest m hm with hm | ⟨q, hq, hm⟩
      · rcases found_of_enter ht m hm with hm | ⟨hname, -⟩
        · exact .inl hm
        · refine .inr ⟨p, List.mem_cons_self .., hname, ?_⟩
          rw [hvalue]
          exact Option.some_ne_none value
      · exact .inr ⟨q, List.mem_cons_of_mem _ hq, hm⟩

theorem found_of_finish {env : List (String × String)} {entered : Bool}
    (h : s.finish l env entered = .ok s') : ∀ m ∈ s'.found, m ∈ s.found ∨ m.source = .commandLine
      ∨ ∃ p ∈ l.parameters, m.name = p.name ∧ p.environment?.bind (env.lookup ·) ≠ none := by
  simp only [finish, bind_eq_ok_iff] at h
  obtain ⟨t, ht, u, hu, h⟩ := h
  -- what is checked behind that lets the scan through or ends in an error
  have hend : s' = u := by
    split at h
    · split at h <;> cases h
    · split at h
      · split at h
        · cases h
          rfl
        · cases h
      · cases h
        rfl
  subst hend
  intro m hm
  rcases found_of_fillIn hu m hm with hm | hm
  · rcases grows_resolve ht m hm with hm | hm
    · exact .inl hm
    · exact .inr (.inl hm)
  · exact .inr (.inr hm)

end Scan

/-- **Each value is from the command line, or a variable of its parameter is set.** -/
theorem found_of_readFrom {env : List (String × String)} {l : Level} {s : Scan}
    {words : List String} {r : Reading} (h : readFrom env l s words = .ok r) :
    ∀ found ∈ r.levels, ∀ m ∈ found, m ∈ s.found ∨ m.source = .commandLine
      ∨ ∃ p, l.Offers p ∧ m.name = p.name ∧ p.environment?.bind (env.lookup ·) ≠ none := by
  have hown {s s' : Scan} {l : Level} {entered : Bool} (h : s.finish l env entered = .ok s')
      (m : Match) (hm : m ∈ s'.found) : m ∈ s.found ∨ m.source = .commandLine
        ∨ ∃ p, l.Offers p ∧ m.name = p.name ∧ p.environment?.bind (env.lookup ·) ≠ none := by
    rcases Scan.found_of_finish h m hm with hm | hm | ⟨p, hp, hm⟩
    · exact .inl hm
    · exact .inr (.inl hm)
    · exact .inr (.inr ⟨p, .here hp, hm⟩)
  induction words generalizing l s r with
  | nil =>
    rw [readFrom, bind_eq_ok_iff] at h
    obtain ⟨s', hs, h⟩ := h
    cases h
    simpa using hown hs
  | cons w rest ih =>
    rw [readFrom] at h
    split at h
    · split at h
      · next sub hsub =>
        -- the level within is read to its end before this one ends
        simp only [bind_eq_ok_iff] at h
        obtain ⟨inner, hinner, s', hs, h⟩ := h
        cases h
        intro found hfound m hm
        rcases List.mem_cons.1 hfound with rfl | hfound
        · exact hown hs m hm
        · rcases ih hinner found hfound m hm with hm | hm | ⟨p, hp, hm⟩
          · cases hm
          · exact .inr (.inl hm)
          · exact .inr (.inr ⟨p, .within (List.mem_of_find?_eq_some hsub) hp, hm⟩)
      · cases h
    · rw [bind_eq_ok_iff] at h
      obtain ⟨t, ht, h⟩ := h
      intro found hfound m hm
      rcases ih h found hfound m hm with hm | hm
      · rcases Scan.grows_word ht m hm with hm | hm
        · exact .inl hm
        · exact .inr (.inl hm)
      · exact .inr hm

/-- The command line does not say anything about a parameter. -/
def Reading.Silent (r : Reading) (name : String) : Prop :=
  ∀ found ∈ r.levels, ∀ m ∈ found, m.name = name → m.source ≠ .commandLine

/-- A parameter has no value if neither the command line nor a variable gives it one. -/
theorem value?_eq_none {env : List (String × String)} {l : Level} {words : List String}
    {r : Reading} {name : String} (h : read env l words = .ok r) (silent : r.Silent name)
    (unset : ∀ p, l.Offers p → p.name = name → p.environment?.bind (env.lookup ·) = none) :
    r.value? name = none := by
  have habsent : r.levels.filterMap (fun found => found.find? fun m => m.name == name) = [] := by
    rw [List.filterMap_eq_nil_iff]
    intro found hfound
    rw [List.find?_eq_none]
    intro m hm hname
    have hname : m.name = name := beq_iff_eq.1 hname
    rcases found_of_readFrom h found hfound m hm with hm' | hsource | ⟨p, hp, hnamed, hset⟩
    · cases hm'
    · exact silent found hfound m hm hname hsource
    · exact hset (unset p hp (hnamed.symm.trans hname))
  simp [Reading.value?, habsent]

/-! ## The format -/

/-- The variable of the format. -/
def formatVariable : String := "TIKLY_OUTPUT"

/-- Whatever names a format on the level, or on one within it, has the variable of the format. -/
def Level.AsksVariable (l : Level) : Prop :=
  ∀ p, l.Offers p → p.name = "output" → p.environment? = some formatVariable

theorem Level.AsksVariable.of {names : List String} {ps : List Parameter}
    {operand? : Option Parameter} {subs : List Level}
    (own : ∀ p ∈ ps, p.name = "output" → p.environment? = some formatVariable)
    (inner : ∀ sub ∈ subs, sub.AsksVariable) : (mk names ps operand? subs).AsksVariable := by
  intro p hp
  cases hp with
  | here hown => exact own p hown
  | within hinner hp => exact inner _ hinner p hp

theorem asksVariable_root : root.AsksVariable := by
  -- every list of parameters that a level is made of; the levels follow, from the leaves up
  have hglobals : ∀ p ∈ globals, p.name = "output" → p.environment? = some formatVariable := by
    decide
  have hfile : ∀ p ∈ fileParameter :: globals,
      p.name = "output" → p.environment? = some formatVariable := by decide
  have hpassword : ∀ p ∈ passwordParameter :: sharedParameters,
      p.name = "output" → p.environment? = some formatVariable := by decide
  have hnone : ∀ sub ∈ ([] : List Level), sub.AsksVariable := fun sub hsub => by cases hsub
  have hverbs : ∀ sub ∈ verbLevels, sub.AsksVariable := by
    simp only [verbLevels, List.forall_mem_cons]
    exact ⟨.of hglobals hnone, .of hglobals hnone, .of hfile hnone, .of hfile hnone,
      .of hglobals hnone, hnone⟩
  have hsettings : ∀ sub ∈ settingsLevels, sub.AsksVariable := by
    simp only [settingsLevels, List.forall_mem_cons]
    exact ⟨.of hglobals hnone, .of hglobals hnone, .of hglobals hnone, .of hglobals hnone,
      .of hpassword hnone, hnone⟩
  refine .of hglobals fun sub hsub => ?_
  rcases List.mem_append.1 hsub with hsub | hsub
  · obtain ⟨command, -, rfl⟩ := List.mem_map.1 hsub
    exact .of hglobals hverbs
  · simp only [List.mem_cons, List.not_mem_nil, or_false] at hsub
    rcases hsub with rfl | rfl
    · exact .of hglobals hsettings
    · exact .of hglobals hnone

/-- What was asked for is a reading of the command line. -/
theorem exists_reading {env : List (String × String)} {words : List String} {i : Invocation}
    (h : Invocation.read env words = .ok i) :
    ∃ r, read env root words = .ok r ∧ i.options = .ofReading r := by
  rw [Invocation.read, bind_eq_ok_iff] at h
  obtain ⟨r, hr, h⟩ := h
  split at h
  · cases h
    exact ⟨r, hr, rfl⟩
  · cases h

/-- Whether the results of an action come in a format. -/
def Action.isFormatted : Action → Bool
  | .menu _ (.delete _) => false
  | .menu .. => true
  | .settings .show => true
  | _ => false

/-- What a plan shows without talking to a device. -/
def Plan.output : Plan → String
  | .report r => r.output
  | .talk .. => ""

namespace Invocation

variable {c : Console} {words : List String} {i : Invocation} {s : Settings} {f : OutputFormat}

/-- The same invocation with another format. -/
def inFormat (i : Invocation) (f : OutputFormat) : Invocation :=
  { i with options := { i.options with output := f } }

/-- Neither the command line nor the environment names a format. -/
structure Unasked (c : Console) (words : List String) : Prop where
  silent : ∀ r, Cli.read c.environment root words = .ok r → r.Silent "output"
  unset : c.environment.lookup formatVariable = none

/-- **Where nothing names a format it is the table.** -/
theorem output_of_unasked (hread : read c.environment words = .ok i) (unasked : Unasked c words) :
    i.options.output = .table := by
  obtain ⟨r, hr, hoptions⟩ := exists_reading hread
  have hnone : r.value? "output" = none := by
    refine value?_eq_none hr (unasked.silent r hr) fun p hp hname => ?_
    rw [asksVariable_root p hp hname, Option.bind_some, unasked.unset]
  rw [hoptions, Options.ofReading, hnone]

theorem lookup_formats_iff {name : String} :
    formats.lookup name = some .table ↔ name = "table" := by
  constructor
  · intro h
    obtain ⟨before, later, hsplit, -⟩ := List.lookup_eq_some_iff.1 h
    have hmem : (name, .table) ∈ formats := by
      rw [hsplit]
      simp
    simpa [formats] using hmem
  · rintro rfl
    rfl

/-- **The default for the format counts exactly where it names the table**, for nothing asks for
it. What is shown is the table, and the settings themselves are shown as they are written, which is
how they are shown in plain. -/
theorem default_format_counts_iff (hread : read c.environment words = .ok i)
    (unasked : Unasked c words) (loaded : Settings.load c.toHost = .ok s)
    (named : formats.lookup s.defaults.output = some f) :
    i.plan c = (i.inFormat .table).plan c
      ∧ (i.options.output = f ↔ s.defaults.output = "table")
      ∧ (s.defaults.output = "table"
          ∨ s.defaults.output = "plain" ∧ i.action = .settings .show →
            i.plan c = (i.inFormat f).plan c)
      ∧ (i.action = .settings .show → i.plan c = .report (reported
          ((settled c.toHost s.masked.write).map (Report.show i.options)))) := by
  -- no argument and no variable names a format, so the table is what was read
  have htable := output_of_unasked hread unasked
  have hshown : i.inFormat .table = i := by
    rw [inFormat, ← htable]
  refine ⟨by rw [hshown], ?_, ?_, ?_⟩
  · rw [htable, ← lookup_formats_iff, named, Option.some.injEq, eq_comm]
  · rintro (hname | ⟨hname, haction⟩)
    · rw [lookup_formats_iff.2 hname] at named
      cases named
      rw [hshown]
    · -- the settings are shown alike in both: they print no records
      rw [hname] at named
      cases named
      simp only [plan, inFormat, haction, SettingsVerb.report, htable, renderSettings]
      rfl
  · intro haction
    simp only [plan, haction, SettingsVerb.report, htable, renderSettings, Settings.loadOrDefault,
      loaded]

/-- A console with settings that name a format. -/
def labConsole (format : String) : Console where
  home := "/home/ops"
  directory := "/home/ops"
  settings? := some ("[defaults]\noutput = \"" ++ format ++ "\"\n")

/-- The settings are to be shown. -/
def showSettings : Invocation := ⟨{}, .settings .show⟩

theorem read_showSettings : read [] ["config", "show"] = .ok showSettings := rfl

theorem unasked_showSettings (format : String) :
    Unasked (labConsole format) ["config", "show"] where
  silent r hr found hfound m hm := by
    have hread : Cli.read [] root ["config", "show"] = .ok ⟨["config", "show"], [[], [], []]⟩ := rfl
    cases hread.symm.trans hr
    simp only [List.mem_cons, List.not_mem_nil, or_false, or_self] at hfound
    subst hfound
    cases hm
  unset := rfl

/-- Where the settings name plain they are shown as if the command line had. -/
theorem default_format_counts_plain :
    read (labConsole "plain").environment ["config", "show"] = .ok showSettings
      ∧ Unasked (labConsole "plain") ["config", "show"]
      ∧ Settings.load (labConsole "plain").toHost = .ok { defaults := { output := "plain" } }
      ∧ formats.lookup "plain" = some .plain
      ∧ showSettings.plan (labConsole "plain")
          = (showSettings.inFormat .plain).plan (labConsole "plain") := by
  have hunasked := unasked_showSettings "plain"
  have hload : Settings.load (labConsole "plain").toHost
      = .ok { defaults := { output := "plain" } } := by decide +kernel
  have hnamed : formats.lookup "plain" = some .plain := rfl
  obtain ⟨-, -, hcounts, -⟩ :=
    default_format_counts_iff read_showSettings hunasked hload hnamed
  exact ⟨read_showSettings, hunasked, hload, hnamed, hcounts (.inr ⟨rfl, rfl⟩)⟩

/-- **The default for the format can count for nothing.** -/
theorem default_format_ignored :
    ¬ ∀ (c : Console) (words : List String) (i : Invocation) (s : Settings) (f : OutputFormat),
      read c.environment words = .ok i → Unasked c words → i.action.isFormatted = true →
        Settings.load c.toHost = .ok s → formats.lookup s.defaults.output = some f →
          i.plan c = (i.inFormat f).plan c := by
  intro hcounts
  have hload : Settings.load (labConsole "json").toHost
      = .ok { defaults := { output := "json" } } := by decide +kernel
  have hplan := hcounts (labConsole "json") ["config", "show"] showSettings _ .json
    read_showSettings (unasked_showSettings "json") rfl hload rfl
  have houtput := congrArg Plan.output hplan
  exact absurd houtput (by decide +kernel)

end Invocation

end RouterMenu.Cli
