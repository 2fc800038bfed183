import RouterMenu.Proofs.Settings.Items

/-!
# The text of settings is read back

The text of settings is one entry, a table of defaults, and a table for every profile, behind
headers that imply the table of all profiles. Read line by line, it makes up the entries of the
settings (`makes_lines`), so it is read back as these entries (`read_write`), if no two profiles
have the same name.
-/

namespace RouterMenu.Settings

open Toml (Item Entries Lists Makes present)

/-! ## The lines of a table -/

theorem isWritable_iff {s : Settings} : s.isWritable = true ↔ s.defaults.timeout ≤ Text.maxI64
    ∧ ∀ e ∈ s.profiles, ∀ t ∈ e.2.timeout?, t ≤ Text.maxI64 := by
  rw [isWritable, Bool.and_eq_true, decide_eq_true_iff, List.all_eq_true]
  refine and_congr_right fun _ => forall₂_congr fun e _ => ?_
  cases htimeout : e.2.timeout? <;> simp [htimeout]

theorem not_isWritable_iff {s : Settings} : s.isWritable = false ↔
    Text.maxI64 < s.defaults.timeout ∨ ∃ e ∈ s.profiles, ∃ t ∈ e.2.timeout?, Text.maxI64 < t := by
  rw [← Bool.not_eq_true, isWritable_iff, not_and_or]
  simp

theorem write_eq_ok_iff {s : Settings} {text : String} :
    s.write = .ok text ↔ s.isWritable = true ∧ text = String.ofList s.lines := by
  rw [write]
  cases s.isWritable <;> simp [eq_comm]

/-- Only a timeout that is too long keeps settings from being written. -/
theorem write_eq_error_iff {s : Settings} {cause : SettingsError} :
    s.write = .error cause ↔ s.isWritable = false ∧ cause = .serialization outOfRange := by
  rw [write]
  cases s.isWritable <;> simp [eq_comm]

theorem lists_defaults {d : Defaults} (hd : d.timeout ≤ Text.maxI64) :
    Lists (Defaults.write d) (Defaults.items d) :=
  (Lists.single "output" (Toml.stands_text _)).append (.single "color" (Toml.stands_text _))
    |>.append (.single "timeout" (Toml.stands_ofNat hd))

theorem lists_profile {p : Profile} (hp : ∀ t ∈ p.timeout?, t ≤ Text.maxI64) :
    Lists (Profile.write p) (Profile.items p) := by
  have htext (k : String) (value? : Option String) :
      Lists (line? k (value?.map Toml.writeText)) (present k (value?.map .text)) :=
    .present k value? fun t _ => Toml.stands_text t
  have hflag : Lists (line? "insecure" (p.insecure?.map writeFlag))
      (present "insecure" (p.insecure?.map .flag)) :=
    .present _ _ fun b _ => Toml.stands_flag b
  have htimeout : Lists (line? "timeout" (p.timeout?.map Text.ofNat))
      (present "timeout" (p.timeout?.map fun t : Nat => .int t)) :=
    .present _ _ fun t ht => Toml.stands_ofNat (hp t ht)
  exact (Lists.single "host" (Toml.stands_text _)).append (htext ..) |>.append (htext ..)
    |>.append (htext ..) |>.append (.single "tls" (Toml.stands_flag _)) |>.append (htext ..)
    |>.append hflag |>.append htimeout

theorem nodup_defaults (d : Defaults) : ((Defaults.items d).map Prod.fst).Nodup := by
  have hkeys : (Defaults.items d).map Prod.fst = ["output", "color", "timeout"] := rfl
  rw [hkeys]
  decide

theorem nodup_items (p : Profile) : ((Profile.items p).map Prod.fst).Nodup :=
  ((Profile.items_perm p).map Prod.fst).nodup_iff.2 (Node.nodup_of_sorted (Profile.sorted_keys p))

/-! ## The tables of profiles -/

/-- Entries of a file at the end of which stands the table of profiles, and at its end the table of
one of them. -/
def withProfile (es ts : Entries) (name : String) (sub : Entries) : Entries :=
  es ++ [("profiles", .table .implied (ts ++ [(name, .table .headed sub)]))]

/-- A profile is read into a table of its own, behind the header that opens it. -/
theorem makes_profile {start es ts all : Entries} {name : String} {p : Profile} {rest : List Char}
    (hes : "profiles" ∉ es.map Prod.fst) (hts : name ∉ ts.map Prod.fst)
    (hopened : Entries.within ["profiles"] (fun es => es.openTable name) start
      = some (withProfile es ts name [])) (hp : ∀ t ∈ p.timeout?, t ≤ Text.maxI64)
    (path : List String)
    (hrest : Makes ⟨withProfile es ts name (Profile.items p), ["profiles", name]⟩ rest all) :
    Makes ⟨start, path⟩
      ('\n' :: (header (["profiles"] ++ [name]) ++ (Profile.write p ++ rest))) all := by
  -- going along the path of the header ends in the entries of this profile
  have hwithin (g : Entries → Option Entries) (sub : Entries) :
      (withProfile es ts name sub).within ["profiles", name] g
        = (g sub).map (withProfile es ts name) := by
    rw [withProfile, Entries.within_append hes (by decide), Entries.within_append hts (by decide),
      Entries.within]
    cases g sub <;> rfl
  have hnew : ((([] : Entries) ++ Profile.items p).map Prod.fst).Nodup := nodup_items p
  have htable : Makes ⟨withProfile es ts name [], ["profiles", name]⟩
      (Profile.write p ++ rest) all :=
    Makes.listed hwithin (lists_profile hp) hnew hrest
  exact (Makes.header ["profiles"] (by decide) hopened htable).blank

/-- The lines of profiles, headers and all. -/
def profileLines (ps : List (String × Profile)) : List Char :=
  ps.flatMap fun (name, p) => '\n' :: header ["profiles", name] ++ Profile.write p

theorem profileLines_cons (name : String) (p : Profile) (ps : List (String × Profile)) :
    profileLines ((name, p) :: ps)
      = '\n' :: (header (["profiles"] ++ [name]) ++ (Profile.write p ++ profileLines ps)) := by
  rw [profileLines, List.flatMap_cons]
  simp only [List.cons_append, List.append_assoc]
  rfl

/-- The tables of more profiles are read in behind others. -/
theorem makes_profiles {es ts : Entries} (hes : "profiles" ∉ es.map Prod.fst)
    {ps : List (String × Profile)} (hps : ∀ e ∈ ps, ∀ t ∈ e.2.timeout?, t ≤ Text.maxI64)
    (hnew : ((ts ++ profileItems ps).map Prod.fst).Nodup) (path : List String) :
    Makes ⟨es ++ [("profiles", .table .implied ts)], path⟩ (profileLines ps)
      (es ++ [("profiles", .table .implied (ts ++ profileItems ps))]) := by
  induction ps generalizing ts path with
  | nil =>
    have hnone : ts ++ profileItems [] = ts := List.append_nil ts
    rw [hnone]
    exact Toml.makes_nil ⟨es ++ [("profiles", .table .implied ts)], path⟩
  | cons e ps ih =>
    obtain ⟨name, p⟩ := e
    rw [List.forall_mem_cons] at hps
    have hname : name ∉ ts.map Prod.fst := by
      rw [List.map_append, List.nodup_append] at hnew
      intro hmem
      exact hnew.2.2 name hmem name (List.mem_cons_self ..) rfl
    have hcons : ts ++ profileItems ((name, p) :: ps)
        = ts ++ [(name, .table .headed (Profile.items p))] ++ profileItems ps := by
      rw [profileItems, List.map_cons, List.append_cons]
      rfl
    -- the profiles written so far now include this one, as the hypothesis wants them
    rw [hcons] at hnew ⊢
    have hopened : (Entries.within ["profiles"] (fun es => es.openTable name)
        (es ++ [("profiles", .table .implied ts)])) = some (withProfile es ts name []) := by
      rw [Entries.within_append hes (by decide), Entries.within, Entries.openTable_of_not_mem hname]
      rfl
    rw [profileLines_cons]
    exact makes_profile hes hname hopened hps.1 path (ih hps.2 hnew _)

/-- The tables of all profiles are read in. The header of the first implies the table that holds
them; where there is none, this table has a header of its own. -/
theorem makes_writeProfiles {es : Entries} (hes : "profiles" ∉ es.map Prod.fst)
    {ps : List (String × Profile)} (hps : ∀ e ∈ ps, ∀ t ∈ e.2.timeout?, t ≤ Text.maxI64)
    (hnew : (ps.map Prod.fst).Nodup) (path : List String) :
    Makes ⟨es, path⟩ (writeProfiles ps)
      (es ++ [("profiles",
        .table (if ps.isEmpty then .headed else .implied) (profileItems ps))]) := by
  cases ps with
  | nil =>
    -- no profile at all is written as an empty table with a header of its own
    have hopened := Entries.openTable_of_not_mem hes
    have hend := Toml.makes_nil ⟨es ++ [("profiles", .table .headed [])], ["profiles"]⟩
    have hlines : Makes ⟨es, path⟩ (header ["profiles"] ++ []) _ :=
      .header [] (by decide) hopened hend
    rw [List.append_nil] at hlines
    exact hlines.blank
  | cons e ps =>
    obtain ⟨name, p⟩ := e
    rw [List.forall_mem_cons] at hps
    -- the first profile makes the table that holds them, the others come to it
    have hopened : Entries.within ["profiles"] (fun es => es.openTable name) es
        = some (withProfile es [] name []) := by
      rw [Entries.within_of_not_mem hes]
      rfl
    have hnames : (([(name, Item.table .headed (Profile.items p))] ++ profileItems ps).map
        Prod.fst).Nodup := by
      rwa [← names_profileItems] at hnew
    have hmore := makes_profiles hes hps.2 hnames ["profiles", name]
    have hwritten : writeProfiles ((name, p) :: ps) = profileLines ((name, p) :: ps) := rfl
    rw [hwritten, profileLines_cons]
    exact makes_profile hes List.not_mem_nil hopened hps.1 path hmore

/-! ## All lines -/

/-- Entries of a file at the end of which stands the table of defaults. -/
def withDefaults (es sub : Entries) : Entries := es ++ [("defaults", .table .headed sub)]

/-- The tables of defaults and profiles are read in. -/
theorem makes_tables {es : Entries} (hdefaults : "defaults" ∉ es.map Prod.fst)
    (hprofiles : "profiles" ∉ es.map Prod.fst) {s : Settings} (writable : s.isWritable = true)
    (hnew : s.names.Nodup) (path : List String) :
    Makes ⟨es, path⟩
      (header ["defaults"] ++ (Defaults.write s.defaults ++ writeProfiles s.profiles))
      (withDefaults es (Defaults.items s.defaults) ++
        [("profiles", .table (if s.profiles.isEmpty then .headed else .implied)
          (profileItems s.profiles))]) := by
  obtain ⟨hd, hps⟩ := isWritable_iff.1 writable
  have hwithin (g : Entries → Option Entries) (sub : Entries) :
      Entries.within ["defaults"] g (withDefaults es sub) = (g sub).map (withDefaults es) := by
    rw [withDefaults, Entries.within_append hdefaults (by decide), Entries.within]
    rfl
  -- the table of the profiles is still to come behind that of the defaults
  have hfurther : "profiles" ∉ (withDefaults es (Defaults.items s.defaults)).map Prod.fst := by
    rw [withDefaults, List.map_append, List.mem_append, not_or]
    exact ⟨hprofiles, by simp⟩
  have htable : Makes ⟨withDefaults es [], ["defaults"]⟩
      (Defaults.write s.defaults ++ writeProfiles s.profiles) _ :=
    Makes.listed hwithin (lists_defaults hd) (nodup_defaults s.defaults)
      (makes_writeProfiles hfurther hps hnew ["defaults"])
  exact .header [] (by decide) (Entries.openTable_of_not_mem hdefaults) htable

/-- All lines are read into the entries of settings. -/
theorem makes_lines {s : Settings} (writable : s.isWritable = true) (hnew : s.names.Nodup) :
    Makes {} s.lines s.items := by
  cases hname : s.defaultProfile? with
  | none =>
    have htables : Makes ⟨[], []⟩ _ _ :=
      makes_tables List.not_mem_nil List.not_mem_nil writable hnew []
    rw [lines, items, hname]
    simpa [line?, present, withDefaults] using htables
  | some name =>
    -- behind the line of the default profile both tables are new all the same
    have hkeys (k : String) (h : k ≠ "default_profile") :
        k ∉ ([("default_profile", Item.text name)] : Entries).map Prod.fst := by
      simpa using h
    have htables := makes_tables (hkeys "defaults" (by decide)) (hkeys "profiles" (by decide))
      writable hnew []
    have hadded : Entries.within [] (fun es => es.add "default_profile" (.text name)) []
        = some [("default_profile", Item.text name)] := rfl
    have hline : Makes {} (line "default_profile" (Toml.writeText name) ++ '\n' :: _) _ :=
      .line (Toml.stands_text name) hadded htables.blank
    have hlines : s.lines = line "default_profile" (Toml.writeText name) ++ '\n' ::
        (header ["defaults"] ++ (Defaults.write s.defaults ++ writeProfiles s.profiles)) := by
      have hgap : (line "default_profile" (Toml.writeText name)).isEmpty = false := rfl
      rw [lines, hname]
      simp only [line?, Option.map_some, hgap]
      simp
    rw [hlines, items, hname]
    exact hline

theorem head_lines_ne_mark (s : Settings) : s.lines.head? ≠ some '\uFEFF' := by
  cases hname : s.defaultProfile? with
  | none =>
    have hfirst : s.lines.head? = some '[' := by rw [lines, hname]; rfl
    rw [hfirst]
    decide
  | some name =>
    have hfirst : s.lines.head? = some 'd' := by rw [lines, hname]; rfl
    rw [hfirst]
    decide

/-- **The text of settings is read back as their entries.** -/
theorem read_write {s : Settings} {text : String} (written : s.write = .ok text)
    (hnew : s.names.Nodup) : Toml.read text = some s.items := by
  obtain ⟨writable, rfl⟩ := write_eq_ok_iff.1 written
  exact (makes_lines writable hnew).read s.head_lines_ne_mark

end RouterMenu.Settings
