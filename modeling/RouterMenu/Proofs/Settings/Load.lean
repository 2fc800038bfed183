import RouterMenu.Proofs.Settings.Saved
import RouterMenu.Proofs.Settings.Variables

/-!
# Loading settings

Settings are loaded from a tree in order, so their profiles are in order (`sorted_of_load`), and
they are loaded again from what was saved of them (`load_saved`), on every host without variables
that change settings (`Host.silenced`). Variables that lead elsewhere leave defaults and profiles
alone (`load_agree`).
-/

namespace RouterMenu

open Settings (settingsStart)
open Settings.Environment (begins)

/-! ## Hosts without variables that change settings -/

/-- A host without the variables that change settings. -/
def Host.silenced (h : Host) : Host :=
  { h with environment := h.environment.filter fun v => !begins settingsStart v.1 }

theorem Host.begins_of_mem_silenced {h : Host} {v : String × String}
    (hv : v ∈ h.silenced.environment) : begins settingsStart v.1 = false := by
  rw [Host.silenced, List.mem_filter, Bool.not_eq_true'] at hv
  exact hv.2

theorem Host.settingsPath_silenced (h : Host) : h.silenced.settingsPath = h.settingsPath := by
  have hfilter : h.silenced.env? "XDG_CONFIG_HOME" = h.env? "XDG_CONFIG_HOME" := by
    have hother : begins settingsStart "XDG_CONFIG_HOME" = false := by decide
    refine Settings.Node.lookup_filter (fun value => ?_) h.environment
    rw [hother]
    rfl
  rw [Host.settingsPath, Host.settingsDirectory, hfilter]
  rfl

namespace Settings

open Toml (entryNodes)
open Node (Ordered)
open Environment (path?)

variable {h : Host} {s s₀ : Settings} {n : Node}

/-! ## Layers -/

theorem ordered_builtin : Ordered builtin := by
  refine .table (by decide) ?_
  simp only [List.forall_mem_cons, List.not_mem_nil, false_implies, implies_true, and_true]
  refine ⟨.other rfl, .table (by decide) ?_, Node.ordered_empty _⟩
  simp only [List.forall_mem_cons, List.not_mem_nil, false_implies, implies_true, and_true]
  exact ⟨.other rfl, .other rfl, .other rfl⟩

/-- A file of settings says a table, and one in order. -/
theorem exists_table_of_fileLayer {path : String} {text? : Option String}
    (h : fileLayer path text? = .ok n) :
    ∃ es, n = .table (.file path) es ∧ Ordered (.table (.file path) es) := by
  unfold fileLayer at h
  split at h
  · cases h
    exact ⟨[], rfl, Node.ordered_empty _⟩
  · split at h
    · next entries _ =>
      cases h
      exact ⟨_, rfl, Toml.ordered_entryNodes entries (Node.ordered_empty _)⟩
    · cases h

theorem checked_eq_ok_iff {α : Type} {x : Except Misfit α} {a : α} :
    checked x = .ok a ↔ x = .ok a := by
  cases x <;> simp [checked]

theorem load_eq_ok_iff : load h = .ok s ↔
    ∃ file, fileLayer (h.shown h.settingsPath) h.settings? = .ok file
      ∧ ofNode ((builtin.overlay file).overlay (Environment.layer settingsStart true h.environment))
          = .ok s := by
  simp only [load, tree, bind_eq_ok_iff, checked_eq_ok_iff, Except.ok.injEq]
  constructor
  · rintro ⟨n, ⟨file, hfile, rfl⟩, hs⟩
    exact ⟨file, hfile, hs⟩
  · rintro ⟨file, hfile, hs⟩
    exact ⟨_, ⟨file, hfile, rfl⟩, hs⟩

/-- **The profiles of settings that were loaded are in order.** -/
theorem sorted_of_load (loaded : load h = .ok s) :
    (s.profiles.map Prod.fst).Pairwise (· < ·) := by
  obtain ⟨file, hfile, hs⟩ := load_eq_ok_iff.1 loaded
  obtain ⟨es, rfl, hes⟩ := exists_table_of_fileLayer hfile
  exact sorted_of_ofNode
    ((ordered_builtin.overlay hes).overlay (Environment.ordered_layer _ _ _)) hs

/-! ## Variables that lead elsewhere -/

/-- Whether a variable has a say in the defaults or in the profiles. -/
def sways (name : String) : Bool :=
  match path? settingsStart true name with
  | some (k :: _) => k == "defaults" || k == "profiles"
  | _ => false

theorem lookup_overlay_of_elsewhere {env : List (String × String)} {k : String}
    (elsewhere : ∀ v ∈ env, sways v.1 = false) (hk : (k == "defaults" || k == "profiles") = true)
    (olds : List (String × Node)) :
    (Node.overlayEntries olds (env.foldl (Environment.takeIn settingsStart true) [])).lookup k
      = olds.lookup k := by
  have hvariables := Environment.ordered_layer settingsStart true env
  rw [Environment.layer_eq] at hvariables
  have hsilent : (env.foldl (Environment.takeIn settingsStart true) []).lookup k = none := by
    rw [Environment.lookup_foldl_takeIn fun v hv path hpath => ?_, List.lookup_nil]
    have hsways := elsewhere v hv
    rw [sways, hpath] at hsways
    exact absurd hk (Bool.eq_false_iff.1 hsways)
  rw [Node.lookup_overlayEntries olds hvariables.sortedKeys, hsilent, Node.overlay?]

/-- **Variables that lead elsewhere leave defaults and profiles alone.** -/
theorem load_agree (elsewhere : ∀ v ∈ h.environment, sways v.1 = false)
    (loaded : load h = .ok s) (loaded₀ : load h.silenced = .ok s₀) :
    s.defaults = s₀.defaults ∧ s.profiles = s₀.profiles := by
  obtain ⟨file, hfile, hs⟩ := load_eq_ok_iff.1 loaded
  obtain ⟨file₀, hfile₀, hs₀⟩ := load_eq_ok_iff.1 loaded₀
  -- both loads read the same file: silencing drops no variable that places it
  have hsame : file₀ = file := by
    have hpath : h.silenced.shown h.silenced.settingsPath = h.shown h.settingsPath := by
      rw [h.settingsPath_silenced]
      rfl
    rw [hpath] at hfile₀
    exact Except.ok.inj (hfile₀.symm.trans hfile)
  subst hsame
  obtain ⟨es, rfl, hes⟩ := exists_table_of_fileLayer hfile
  have hbase := ordered_builtin.overlay hes
  rw [builtin, Node.overlay_table] at hs hs₀ hbase
  rw [Environment.layer_eq, Node.overlay_table] at hs
  rw [Environment.layer_of_silent fun v hv => Host.begins_of_mem_silenced hv, Node.overlay_table,
    Node.overlayEntries] at hs₀
  -- the two keys are looked up alike, since no variable that is read leads to either
  exact ofNode_agree (Node.sortedKeys_overlayEntries hbase.sortedKeys _) hbase.sortedKeys
    (lookup_overlay_of_elsewhere elsewhere (by decide) _)
    (lookup_overlay_of_elsewhere elsewhere (by decide) _) hs hs₀

/-! ## Loading what was saved -/

/-- Where settings were saved, they are what variables are laid over. -/
theorem load_eq_of_saved {name text : String} (saved : h.settings? = some text)
    (written : s.write = .ok text) (named : s.defaultProfile? = some name)
    (sorted : (s.profiles.map Prod.fst).Pairwise (· < ·)) :
    ∃ l, load h = checked (ofNode ((Node.table l (entryNodes l [] s.items)).overlay
      (Environment.layer settingsStart true h.environment))) := by
  have hread : Toml.read text = some s.items := read_write written (Node.nodup_of_sorted sorted)
  refine ⟨.file (h.shown h.settingsPath), ?_⟩
  rw [load, tree, saved, fileLayer, hread]
  simp only [bind, Except.bind, builtin_overlay_items named sorted]

/-- **What was saved is loaded as it is,** on every host without variables that change settings. -/
theorem load_saved {name text : String}
    (silent : ∀ v ∈ h.environment, begins settingsStart v.1 = false)
    (saved : h.settings? = some text) (written : s.write = .ok text)
    (named : s.defaultProfile? = some name) (sorted : (s.profiles.map Prod.fst).Pairwise (· < ·)) :
    load h = .ok s := by
  obtain ⟨l, hload⟩ := load_eq_of_saved saved written named sorted
  rw [hload, Environment.layer_of_silent silent, Node.overlay_table, Node.overlayEntries,
    checked_eq_ok_iff]
  exact ofNode_items named sorted

end Settings

end RouterMenu
