import Mathlib.Data.List.Basic
import RouterMenu.Proofs.Settings.Extract
import RouterMenu.Proofs.Toml.File
import RouterMenu.Settings.Load

/-!
# Settings from the entries of a file

A file of settings is a list of entries (`items`). What a table says does not depend on the order of
its entries in the file (`entryNodes_eq`), and laid over what is built in, the entries of settings
say everything: settings with a default profile come from their own entries (`ofNode_items`), if
their profiles are in order.
-/

namespace RouterMenu

namespace Toml

open Settings (Layer Node)
open Settings.Node (SortedKeys Ordered put)
open scoped List

variable {l : Layer} {k : String} {v : Node} {done : List (String × Node)} {es sorted : Entries}

/-! ## Entries of a file -/

/-- What entries of a file say, in their order. -/
def nodes (l : Layer) (es : Entries) : List (String × Node) := es.map fun e => (e.1, e.2.toNode l)

theorem nodes_append (l : Layer) (es fs : Entries) :
    nodes l (es ++ fs) = nodes l es ++ nodes l fs :=
  List.map_append

theorem put_perm (h : k ∉ done.map Prod.fst) : put k v done ~ (k, v) :: done := by
  induction done with
  | nil => exact .refl _
  | cons e done ih =>
    obtain ⟨k', w⟩ := e
    rw [List.map_cons, List.mem_cons, not_or] at h
    rw [put, if_neg (Ne.symm h.1)]
    split
    · exact .refl _
    · exact ((ih h.2).cons _).trans (.swap ..)

theorem entryNodes_perm (done : List (String × Node)) (es : Entries)
    (h : (done.map Prod.fst ++ es.map Prod.fst).Nodup) :
    entryNodes l done es ~ done ++ nodes l es := by
  induction es generalizing done with
  | nil => rw [entryNodes, nodes, List.map_nil, List.append_nil]
  | cons e es ih =>
    obtain ⟨k, item⟩ := e
    rw [List.map_cons] at h
    have hk : k ∉ done.map Prod.fst := fun hmem =>
      (List.nodup_append.1 h).2.2 _ hmem _ (List.mem_cons_self ..) rfl
    -- a key that is new is put in somewhere, and replaces nothing
    have hput : put k (item.toNode l) done ~ (k, item.toNode l) :: done := put_perm hk
    have hnodup : ((put k (item.toNode l) done).map Prod.fst ++ es.map Prod.fst).Nodup := by
      refine ((hput.map Prod.fst).append_right _).nodup_iff.2 ?_
      exact List.perm_middle.nodup_iff.1 h
    rw [entryNodes]
    calc entryNodes l (put k (item.toNode l) done) es
        _ ~ put k (item.toNode l) done ++ nodes l es := ih _ hnodup
        _ ~ (k, item.toNode l) :: done ++ nodes l es := hput.append_right _
        _ ~ done ++ (k, item.toNode l) :: nodes l es := List.perm_middle.symm

mutual

/-- What a file says at one place is in order. -/
theorem ordered_toNode (l : Layer) : ∀ item : Item, Ordered (item.toNode l)
  | .table _ es => by
    rw [Item.toNode]
    exact ordered_entryNodes es (Node.ordered_empty _)
  | .moment text => by
    rw [Item.toNode]
    refine .table (List.pairwise_singleton ..) fun e he => ?_
    rw [List.mem_singleton.1 he]
    exact .other rfl
  | .text _ | .int _ | .float _ | .flag _ | .array _ | .tables _ _ => by
    rw [Item.toNode]
    exact .other rfl

theorem ordered_entryNodes (es : Entries) {l : Layer} {done : List (String × Node)}
    (h : Ordered (.table l done)) : Ordered (.table l (entryNodes l done es)) := by
  match es with
  | [] => rwa [entryNodes]
  | (k, item) :: es =>
    rw [entryNodes]
    exact ordered_entryNodes es (h.put k (ordered_toNode l item))

end

/-- **A file says the same in whatever order its entries are.** -/
theorem entryNodes_eq (hsorted : (sorted.map Prod.fst).Pairwise (· < ·)) (hperm : es ~ sorted) :
    entryNodes l [] es = nodes l sorted := by
  have hsorted' : SortedKeys (nodes l sorted) := by
    rw [Settings.Node.sortedKeys_iff, nodes, List.map_map]
    exact hsorted
  have hnodup : (es.map Prod.fst).Nodup :=
    (hperm.map Prod.fst).nodup_iff.2 (Settings.Node.nodup_of_sorted hsorted)
  have hordered : Ordered (.table l (entryNodes l [] es)) :=
    ordered_entryNodes es (Node.ordered_empty _)
  refine List.Perm.eq_of_pairwise (fun a b _ _ hab hba => ?_) hordered.sortedKeys hsorted' ?_
  · exact absurd hba (String.lt_asymm hab)
  · exact (entryNodes_perm [] es hnodup).trans (hperm.map _)

end Toml

namespace Settings

open Toml (Item Entries present nodes entryNodes)
open Node (Ordered)
open scoped List

variable {l : Layer}

/-! ## Settings as entries -/

/-- The entries of defaults, as they are written. -/
def Defaults.items (d : Defaults) : Entries :=
  [("output", .text d.output), ("color", .text d.color), ("timeout", .int d.timeout)]

/-- The entries of a profile, as they are written. -/
def Profile.items (p : Profile) : Entries :=
  [("host", .text p.host)] ++ present "username" (p.username?.map .text) ++
    present "password" (p.password?.map .text) ++
    present "password_env" (p.passwordVariable?.map .text) ++ [("tls", .flag p.tls)] ++
    present "ca_cert" (p.authorities?.map .text) ++ present "insecure" (p.insecure?.map .flag) ++
    present "timeout" (p.timeout?.map fun t : Nat => .int t)

/-- The tables of profiles, as they are written. -/
def profileItems (ps : List (String × Profile)) : Entries :=
  ps.map fun (name, p) => (name, .table .headed (Profile.items p))

/-- The entries of settings, as they are written. The headers of profiles imply the table that holds
them. -/
def items (s : Settings) : Entries :=
  present "default_profile" (s.defaultProfile?.map .text) ++
    [("defaults", .table .headed (Defaults.items s.defaults)),
      ("profiles", .table (if s.profiles.isEmpty then .headed else .implied)
        (profileItems s.profiles))]

/-! ## Defaults and profiles from their entries -/

theorem entryNodes_defaults (d : Defaults) : entryNodes l [] (Defaults.items d) =
    [("color", .text l d.color), ("output", .text l d.output),
      ("timeout", .signed l d.timeout)] := by
  rfl

/-- The entries of a profile, as they are arranged in a table. -/
def Profile.sortedItems (p : Profile) : Entries :=
  present "ca_cert" (p.authorities?.map .text) ++ [("host", .text p.host)] ++
    present "insecure" (p.insecure?.map .flag) ++ present "password" (p.password?.map .text) ++
    present "password_env" (p.passwordVariable?.map .text) ++
    present "timeout" (p.timeout?.map fun t : Nat => .int t) ++ [("tls", .flag p.tls)] ++
    present "username" (p.username?.map .text)

theorem keys_present (k : String) (value? : Option Item) :
    (present k value?).map Prod.fst <+ [k] := by
  cases value? with
  | none => exact List.nil_sublist _
  | some v => exact .refl _

theorem Profile.items_perm (p : Profile) : items p ~ sortedItems p := by
  classical
  rw [List.perm_iff_count]
  intro e
  simp only [items, sortedItems, List.count_append]
  omega

theorem Profile.sorted_keys (p : Profile) :
    ((sortedItems p).map Prod.fst).Pairwise (· < ·) := by
  have hkeys : (sortedItems p).map Prod.fst <+ ["ca_cert"] ++ ["host"] ++ ["insecure"] ++
      ["password"] ++ ["password_env"] ++ ["timeout"] ++ ["tls"] ++ ["username"] := by
    simp only [sortedItems, List.map_append]
    exact (keys_present ..).append (.refl _) |>.append (keys_present ..) |>.append (keys_present ..)
      |>.append (keys_present ..) |>.append (keys_present ..) |>.append (.refl _)
      |>.append (keys_present ..)
  exact List.Pairwise.sublist hkeys (by decide)

theorem asNat_signed (l : Layer) (n : Nat) : (Node.signed l n).asNat = .ok n := by
  rw [Node.asNat, if_neg (by omega)]
  rfl

/-- **A profile is what its entries say.** -/
theorem Profile.ofNode_items (p : Profile) :
    ofNode (.table l (entryNodes l [] (items p))) = .ok p := by
  -- key by key, in the order in which they are sorted
  have hauthorities (d : Draft) :
      foldEntries step d (nodes l (present "ca_cert" (p.authorities?.map .text)))
        = .ok { d with profile.authorities? := p.authorities?.or d.profile.authorities? } := by
    cases p.authorities? <;> rfl
  have hhost (d : Draft) : foldEntries step d (nodes l [("host", .text p.host)])
      = .ok { d with host? := some p.host } := rfl
  have hinsecure (d : Draft) :
      foldEntries step d (nodes l (present "insecure" (p.insecure?.map .flag)))
        = .ok { d with profile.insecure? := p.insecure?.or d.profile.insecure? } := by
    cases p.insecure? <;> rfl
  have hpassword (d : Draft) :
      foldEntries step d (nodes l (present "password" (p.password?.map .text)))
        = .ok { d with profile.password? := p.password?.or d.profile.password? } := by
    cases p.password? <;> rfl
  have hvariable (d : Draft) :
      foldEntries step d (nodes l (present "password_env" (p.passwordVariable?.map .text)))
        = .ok { d with
            profile.passwordVariable? := p.passwordVariable?.or d.profile.passwordVariable? } := by
    cases p.passwordVariable? <;> rfl
  have htimeout (d : Draft) :
      foldEntries step d (nodes l (present "timeout" (p.timeout?.map fun t : Nat => .int t)))
        = .ok { d with profile.timeout? := p.timeout?.or d.profile.timeout? } := by
    cases p.timeout? with
    | none => rfl
    | some t =>
      have hstep : step d "timeout" (.signed l t) = .ok { d with profile.timeout? := some t } := by
        simp only [step, String.reduceEq, if_true, if_false, asNat_signed]
        rfl
      simp only [present, nodes, Option.map_some, Option.toList_some, List.map_cons, List.map_nil,
        foldEntries, Item.toNode, hstep]
      rfl
  have htls (d : Draft) : foldEntries step d (nodes l [("tls", .flag p.tls)])
      = .ok { d with profile.tls := p.tls } := rfl
  have husername (d : Draft) :
      foldEntries step d (nodes l (present "username" (p.username?.map .text)))
        = .ok { d with profile.username? := p.username?.or d.profile.username? } := by
    cases p.username? <;> rfl
  rw [ofNode, Toml.entryNodes_eq (sorted_keys p) (items_perm p)]
  simp only [sortedItems, Toml.nodes_append, foldEntries_append, hauthorities, hhost, hinsecure,
    hpassword, hvariable, htimeout, htls, husername, bind, Except.bind, Option.or_none]
  rfl

theorem profilesOf_items (ps : List (String × Profile)) :
    profilesOf (nodes l (profileItems ps)) = .ok ps := by
  induction ps with
  | nil => rfl
  | cons e ps ih =>
    obtain ⟨name, p⟩ := e
    have htable : (Item.table .headed (Profile.items p)).toNode l
        = .table l (entryNodes l [] (Profile.items p)) := by
      rw [Item.toNode]
    have hcons : nodes l (profileItems ((name, p) :: ps))
        = (name, .table l (entryNodes l [] (Profile.items p))) :: nodes l (profileItems ps) :=
      congrArg (fun n => (name, n) :: nodes l (profileItems ps)) htable
    rw [hcons, profilesOf, Profile.ofNode_items, ih]
    rfl

theorem names_profileItems (ps : List (String × Profile)) :
    (profileItems ps).map Prod.fst = ps.map Prod.fst := by
  rw [profileItems, List.map_map]
  rfl

theorem entryNodes_items {s : Settings} {name : String} (named : s.defaultProfile? = some name)
    (sorted : (s.profiles.map Prod.fst).Pairwise (· < ·)) :
    entryNodes l [] s.items =
      [("default_profile", .text l name),
        ("defaults", .table l [("color", .text l s.defaults.color),
          ("output", .text l s.defaults.output), ("timeout", .signed l s.defaults.timeout)]),
        ("profiles", .table l (nodes l (profileItems s.profiles)))] := by
  have hprofiles : entryNodes l [] (profileItems s.profiles) = nodes l (profileItems s.profiles) :=
    Toml.entryNodes_eq (by rwa [names_profileItems]) (.refl _)
  rw [← hprofiles, ← entryNodes_defaults, items, named]
  rfl

theorem Defaults.ofNode_entries (d : Defaults) :
    ofNode (.table l [("color", .text l d.color), ("output", .text l d.output),
      ("timeout", .signed l d.timeout)]) = .ok d := by
  simp only [ofNode, foldEntries, step, String.reduceEq, if_true, if_false, asNat_signed]
  rfl

/-- Laid over what is built in, the entries of settings with a default profile say everything. -/
theorem builtin_overlay_items {s : Settings} {name : String}
    (named : s.defaultProfile? = some name) (sorted : (s.profiles.map Prod.fst).Pairwise (· < ·)) :
    builtin.overlay (.table l (entryNodes l [] s.items)) = .table l (entryNodes l [] s.items) := by
  have hprofiles : Node.SortedKeys (nodes l (profileItems s.profiles)) := by
    rw [Node.sortedKeys_iff, nodes, List.map_map]
    rwa [← names_profileItems] at sorted
  rw [entryNodes_items named sorted, builtin, Node.overlay_table]
  simp only [Node.overlayEntries, Node.overlay, Node.put, Node.lookup_cons_eq, String.reduceEq,
    String.reduceLT, if_true, if_false, List.lookup_nil, Node.overlayEntries_nil hprofiles]

/-- **Settings with a default profile are loaded from their own entries,** if their profiles are in
order. -/
theorem ofNode_items {s : Settings} {name : String} (named : s.defaultProfile? = some name)
    (sorted : (s.profiles.map Prod.fst).Pairwise (· < ·)) :
    ofNode (.table l (entryNodes l [] s.items)) = .ok s := by
  rw [entryNodes_items named sorted, ofNode]
  simp only [foldEntries, step, String.reduceEq, if_true, if_false, profilesOf_items,
    Defaults.ofNode_entries]
  obtain ⟨default?, defaults, profiles⟩ := s
  cases named
  rfl

end Settings

end RouterMenu
