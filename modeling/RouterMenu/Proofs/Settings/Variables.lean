import RouterMenu.Proofs.Settings.Layers
import RouterMenu.Proofs.Settings.Verbatim
import RouterMenu.Proofs.Text.Numeral
import RouterMenu.Settings.Load

/-!
# What variables say

The variables that begin alike are taken in one after another, each as the entries that its name
leads to (`takeIn`), so the layer they make up is always a table (`layer_eq`), and one in order
(`ordered_layer`). A variable that begins otherwise says nothing (`layer_of_silent`), and under a
key that the name of one variable alone leads to stands what that variable says
(`lookup_layer_of_unique`).
-/

namespace RouterMenu.Settings

namespace Environment

open Node (Ordered)

variable {start : String} {splits : Bool} {k : String} {es : List (String × Node)}
  {v : String × String} {env : List (String × String)}

/-! ## The names of variables -/

/-- Whether the name of a variable begins as given, without regard to case. -/
def begins (start name : String) : Bool :=
  ((Text.trim name.toList).take start.length).map Text.lower == start.toList.map Text.lower

/-- The parts of a name behind its start. -/
def parts (start : String) (splits : Bool) (name : String) : List (List Char) :=
  let rest := ((Text.trim name.toList).drop start.length).map Text.lower
  Text.pieces '.' (if splits then path?.split rest else rest)

theorem path?_eq (start : String) (splits : Bool) (name : String) :
    path? start splits name =
      if begins start name && !(parts start splits name).any List.isEmpty then
        some ((parts start splits name).map String.ofList)
      else none := by
  unfold path?
  -- that the name begins right is the one test, and that no part is empty the other
  by_cases h : start.toList.map Text.lower
      = ((Text.trim name.toList).take start.length).map Text.lower
  · have hbegins : begins start name = true := by
      rw [begins, h, beq_self_eq_true]
    rw [if_neg (not_not_intro h), hbegins, Bool.true_and]
    cases hempty : (parts start splits name).any List.isEmpty with
    | true => exact if_pos hempty
    | false => exact if_neg (Bool.eq_false_iff.1 hempty)
  · have hbegins : begins start name = false := by
      rw [begins, beq_eq_false_iff_ne]
      exact Ne.symm h
    rw [if_pos h, hbegins, Bool.false_and]
    rfl

theorem path?_of_not_begins {name : String} (h : begins start name = false) :
    path? start splits name = none := by
  rw [path?_eq, h, Bool.false_and]
  rfl

theorem begins_of_path? {name : String} {path : List String}
    (h : path? start splits name = some path) : begins start name = true := by
  cases hbegins : begins start name with
  | true => rfl
  | false =>
    rw [path?_of_not_begins hbegins] at h
    cases h

/-- The name of a variable leads somewhere, if anywhere. -/
theorem path?_ne_nil (start : String) (splits : Bool) (name : String) :
    path? start splits name ≠ some [] := by
  rw [path?_eq]
  split
  · intro h
    exact Text.pieces_ne_nil _ _ (List.map_eq_nil_iff.1 (Option.some.inj h))
  · intro h
    cases h

/-! ## One variable after another -/

/-- The entries of a table that has taken in a variable. -/
def takeIn (start : String) (splits : Bool) (es : List (String × Node)) (v : String × String) :
    List (String × Node) :=
  let l := Layer.environment start
  match path? start splits v.1 with
  | some (k :: path) => Node.overlayEntries es [(k, Node.nest l (read l v.2) path)]
  | _ => es

/-- Variables make up a table. -/
theorem layer_eq (start : String) (splits : Bool) (env : List (String × String)) :
    layer start splits env = .table (.environment start) (env.foldl (takeIn start splits) []) := by
  rw [layer]
  generalize ([] : List (String × Node)) = es
  -- variable by variable, each laid over what those before it have made up
  induction env generalizing es with
  | nil => rfl
  | cons v env ih =>
    rw [List.foldl_cons, List.foldl_cons, ← ih]
    congr 1
    obtain ⟨name, s⟩ := v
    simp only [takeIn]
    cases hpath : path? start splits name with
    | none => rfl
    | some path =>
      cases path with
      | nil => exact absurd hpath (path?_ne_nil _ _ _)
      | cons k path => exact Node.overlay_table ..

theorem layer_of_silent (silent : ∀ v ∈ env, begins start v.1 = false) :
    layer start splits env = .table (.environment start) [] := by
  rw [layer_eq]
  congr 1
  induction env with
  | nil => rfl
  | cons v env ih =>
    rw [List.forall_mem_cons] at silent
    rw [List.foldl_cons, takeIn, path?_of_not_begins silent.1]
    exact ih silent.2

theorem lookup_takeIn {path : List String} (hpath : path? start splits v.1 = some (k :: path))
    (k' : String) : (takeIn start splits es v).lookup k' =
      if k' = k then Node.overlay? (es.lookup k)
        (some (Node.nest (.environment start) (read (.environment start) v.2) path))
      else es.lookup k' := by
  rw [takeIn, hpath]
  simp only
  rw [Node.lookup_overlayEntries es (List.pairwise_singleton ..), Node.lookup_cons_eq]
  by_cases hk : k' = k
  · rw [if_pos hk, if_pos hk, hk]
  · rw [if_neg hk, if_neg hk, List.lookup_nil]
    cases es.lookup k' <;> rfl

/-- Variables that lead elsewhere change nothing under a key. -/
theorem lookup_foldl_takeIn
    (elsewhere : ∀ v ∈ env, ∀ path, path? start splits v.1 ≠ some (k :: path)) :
    (env.foldl (takeIn start splits) es).lookup k = es.lookup k := by
  induction env generalizing es with
  | nil => rfl
  | cons v env ih =>
    rw [List.forall_mem_cons] at elsewhere
    rw [List.foldl_cons, ih elsewhere.2]
    -- a variable changes the entry of the first name on its path only
    cases hpath : path? start splits v.1 with
    | none => rw [takeIn, hpath]
    | some path =>
      cases path with
      | nil => exact absurd hpath (path?_ne_nil _ _ _)
      | cons k' path =>
        have hne : k ≠ k' := by
          rintro rfl
          exact elsewhere.1 path hpath
        rw [lookup_takeIn hpath, if_neg hne]

/-- **Under a key that one variable alone leads to stands what it says.** -/
theorem lookup_layer_of_unique (hv : v ∈ env) (hpath : path? start splits v.1 = some [k])
    (unique : (env.map Prod.fst).Nodup)
    (alone : ∀ w ∈ env, ∀ path, path? start splits w.1 = some (k :: path) → w.1 = v.1) :
    (env.foldl (takeIn start splits) []).lookup k = some (read (.environment start) v.2) := by
  -- no variable before this one and none behind it leads to the key
  obtain ⟨before, after, rfl⟩ := List.append_of_mem hv
  rw [List.map_append, List.map_cons, List.nodup_append, List.nodup_cons] at unique
  obtain ⟨-, ⟨hafter, -⟩, hbefore⟩ := unique
  have hfirst : ∀ w ∈ before, ∀ path, path? start splits w.1 ≠ some (k :: path) := by
    intro w hw path hwpath
    have hname := alone w (List.mem_append_left _ hw) path hwpath
    exact hbefore _ (List.mem_map_of_mem hw) _ (List.mem_cons_self ..) hname
  have hlast : ∀ w ∈ after, ∀ path, path? start splits w.1 ≠ some (k :: path) := by
    intro w hw path hwpath
    have hname := alone w (List.mem_append_right _ (List.mem_cons_of_mem _ hw)) path hwpath
    exact hafter (hname ▸ List.mem_map_of_mem hw)
  rw [List.foldl_append, List.foldl_cons, lookup_foldl_takeIn hlast, lookup_takeIn hpath,
    if_pos rfl, lookup_foldl_takeIn hfirst]
  rfl

/-! ## Order -/

theorem ordered_plain (l : Layer) (s : List Char) : Ordered (plain l s) := by
  obtain ⟨-, h⟩ | ⟨-, ⟨x, h⟩ | ⟨n, h⟩ | ⟨n, h⟩⟩ := plain_cases l s
  all_goals
    rw [h]
    exact .other rfl

/-- What values are read as is in order, and so are the entries of tables in braces. The fuel goes
down together in both. -/
theorem ordered_value_and_pairs (l : Layer) (fuel : Nat) :
    (∀ s n rest, value l fuel s = some (n, rest) → Ordered n)
      ∧ ∀ done s es rest, pairs l fuel done s = some (es, rest) → Ordered (.table l done) →
        Ordered (.table l es) := by
  -- values hold pairs and pairs hold values, so both are shown at once
  induction fuel with
  | zero =>
    constructor
    · intro s n rest h
      cases h
    · intro done s es rest h
      cases h
  | succ fuel ih =>
    obtain ⟨ihvalue, ihpairs⟩ := ih
    constructor
    · intro s n rest h
      rw [value] at h
      obtain ⟨⟨n, rest⟩, hread, heq⟩ := Option.map_eq_some_iff.1 h
      cases heq
      split at hread
      · cases hread
        exact .other rfl
      · split at hread
        · cases hread
          exact .other rfl
        · split at hread
          · obtain ⟨⟨es, rest⟩, hpairs, heq⟩ := Option.map_eq_some_iff.1 hread
            cases heq
            exact ihpairs _ _ _ _ hpairs (Node.ordered_empty _)
          · obtain ⟨_, -, heq⟩ := Option.map_eq_some_iff.1 hread
            cases heq
            exact .other rfl
          · obtain ⟨_, -, heq⟩ := Option.map_eq_some_iff.1 hread
            cases heq
            exact .other rfl
          · cases hread
            exact .other rfl
          · cases hread
          · cases hread
            exact ordered_plain ..
    · intro done s es rest h hdone
      unfold pairs at h
      split at h
      · cases h
      · cases h
        exact hdone
      · next hfuel _ =>
        cases hfuel
        obtain ⟨⟨k, _⟩, -, h⟩ := Option.bind_eq_some_iff.1 h
        simp only at h
        split at h
        · obtain ⟨⟨n, _⟩, hvalue, h⟩ := Option.bind_eq_some_iff.1 h
          have hput := hdone.put k (ihvalue _ _ _ hvalue)
          simp only at h
          split at h
          · exact ihpairs _ _ _ _ h hput
          · cases h
            exact hput
          · cases h
        · cases h

theorem ordered_read (l : Layer) (s : String) : Ordered (read l s) := by
  rw [read]
  split
  · next hvalue => exact (ordered_value_and_pairs l _).1 _ _ _ hvalue
  · exact .other rfl

theorem ordered_takeIn (h : Ordered (.table (.environment start) es)) (v : String × String) :
    Ordered (.table (.environment start) (takeIn start splits es v)) := by
  rw [takeIn]
  split
  · next k path _ =>
    have hnew := Node.ordered_nest (.environment start) (ordered_read (.environment start) v.2)
      (k :: path)
    have hlaid := h.overlay hnew
    rwa [Node.nest, Node.overlay_table] at hlaid
  · exact h

/-- **Variables make up a tree in order.** -/
theorem ordered_layer (start : String) (splits : Bool) (env : List (String × String)) :
    Ordered (layer start splits env) := by
  rw [layer_eq]
  have hfold (es : List (String × Node)) (h : Ordered (.table (.environment start) es)) :
      Ordered (.table (.environment start) (env.foldl (takeIn start splits) es)) := by
    induction env generalizing es with
    | nil => exact h
    | cons v env ih => exact ih _ (ordered_takeIn h v)
  exact hfold [] (Node.ordered_empty _)

end Environment

end RouterMenu.Settings
