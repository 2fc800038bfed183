import RouterMenu.Proofs.Settings.Layers
import RouterMenu.Settings.Extract

/-!
# What is read from a tree

A structure is read entry by entry. What every entry keeps is kept by all of them
(`foldEntries_induction`), and a field that only the entry of one key sets comes from that entry
alone (`field_of_foldEntries`). So trees that say the same about defaults and profiles give the same
ones, whatever else they say (`ofNode_agree`), and from trees in order come profiles in order
(`sorted_of_ofNode`).
-/

namespace RouterMenu.Settings

open Node (Ordered SortedKeys)

/-! ## Steps that may fail -/

theorem bind_eq_ok_iff {ε α β : Type} {x : Except ε α} {f : α → Except ε β} {b : β} :
    (x >>= f) = .ok b ↔ ∃ a, x = .ok a ∧ f a = .ok b := by
  cases x with
  | error e => simp [bind, Except.bind]
  | ok a => simp [bind, Except.bind]

theorem map_eq_ok_iff {ε α β : Type} {x : Except ε α} {f : α → β} {b : β} :
    x.map f = .ok b ↔ ∃ a, x = .ok a ∧ f a = b := by
  cases x with
  | error e => simp [Except.map]
  | ok a => simp [Except.map]

theorem at_eq_ok_iff {α : Type} {k : String} {x : Except Misfit α} {a : α} :
    «at» k x = .ok a ↔ x = .ok a := by
  cases x <;> simp [«at»]

/-! ## Entry by entry -/

section Fold

variable {α β : Type} {step : α → String → Node → Except Misfit α} {a b : α} {k : String}
  {n : Node} {es : List (String × Node)}

theorem foldEntries_cons_eq_ok_iff : foldEntries step a ((k, n) :: es) = .ok b ↔
    ∃ c, step a k n = .ok c ∧ foldEntries step c es = .ok b := by
  rw [foldEntries, bind_eq_ok_iff]
  simp only [at_eq_ok_iff]

theorem foldEntries_append (step : α → String → Node → Except Misfit α) (a : α)
    (es fs : List (String × Node)) :
    foldEntries step a (es ++ fs) = foldEntries step a es >>= fun b => foldEntries step b fs := by
  induction es generalizing a with
  | nil => rfl
  | cons e es ih =>
    obtain ⟨k, n⟩ := e
    rw [List.cons_append, foldEntries, foldEntries]
    cases «at» k (step a k n) with
    | error m => rfl
    | ok b => exact ih b

/-- What every entry keeps is kept by all of them. -/
theorem foldEntries_induction {P : α → Prop}
    (hstep : ∀ e ∈ es, ∀ a b, P a → step a e.1 e.2 = .ok b → P b) (ha : P a)
    (h : foldEntries step a es = .ok b) : P b := by
  induction es generalizing a with
  | nil =>
    cases h
    exact ha
  | cons e es ih =>
    rw [List.forall_mem_cons] at hstep
    obtain ⟨c, hc, hrest⟩ := foldEntries_cons_eq_ok_iff.1 h
    exact ih hstep.2 (hstep.1 a c ha hc) hrest

/-- **A field that only the entry of one key sets comes from that entry alone.** -/
theorem field_of_foldEntries (field : α → β) (ofEntry : Node → Except Misfit β)
    (hself : ∀ a n b, step a k n = .ok b → ofEntry n = .ok (field b))
    (hother : ∀ l, l ≠ k → ∀ a n b, step a l n = .ok b → field b = field a)
    (hes : SortedKeys es) (h : foldEntries step a es = .ok b) :
    (es.lookup k).elim (.ok (field a)) ofEntry = .ok (field b) := by
  induction es generalizing a with
  | nil =>
    cases h
    rfl
  | cons e es ih =>
    obtain ⟨l, n⟩ := e
    obtain ⟨hbefore, hsorted⟩ := List.pairwise_cons.1 hes
    obtain ⟨c, hc, hrest⟩ := foldEntries_cons_eq_ok_iff.1 h
    have hfield := ih hsorted hrest
    rw [Node.lookup_cons_eq]
    by_cases hl : k = l
    · -- no later entry has this key again
      subst hl
      rw [Node.lookup_eq_none_of_lt hbefore] at hfield
      rw [if_pos rfl, Option.elim_some, hself a n c hc]
      exact hfield
    · rw [if_neg hl, ← hother l (Ne.symm hl) a n c hc]
      exact hfield

end Fold

/-! ## Settings -/

theorem names_of_profilesOf {es : List (String × Node)} {ps : List (String × Profile)}
    (h : profilesOf es = .ok ps) : ps.map Prod.fst = es.map Prod.fst := by
  induction es generalizing ps with
  | nil =>
    cases h
    rfl
  | cons e es ih =>
    obtain ⟨k, n⟩ := e
    simp only [profilesOf, bind_eq_ok_iff] at h
    obtain ⟨p, -, ps', hrest, heq⟩ := h
    cases heq
    rw [List.map_cons, List.map_cons, ih hrest]

/-- The ways in which an entry is taken in. -/
theorem step_cases {s s' : Settings} {k : String} {n : Node} (h : step s k n = .ok s') :
    (k = "default_profile" ∧ ∃ name, s' = { s with defaultProfile? := some name })
      ∨ (k = "defaults" ∧ ∃ d, Defaults.ofNode n = .ok d ∧ s' = { s with defaults := d })
      ∨ (k = "profiles" ∧ ∃ l es ps, n = .table l es ∧ profilesOf es = .ok ps
          ∧ s' = { s with profiles := ps })
      ∨ (k ≠ "defaults" ∧ k ≠ "profiles" ∧ s' = s) := by
  -- three keys are known, and all others are passed over
  unfold step at h
  split at h
  · next hk =>
    obtain ⟨name, -, rfl⟩ := map_eq_ok_iff.1 h
    exact .inl ⟨hk, name, rfl⟩
  · split at h
    · next hk =>
      obtain ⟨d, hd, rfl⟩ := map_eq_ok_iff.1 h
      exact .inr (.inl ⟨hk, d, hd, rfl⟩)
    · next hdefaults =>
      split at h
      · next hk =>
        split at h
        · next l es =>
          obtain ⟨ps, hps, rfl⟩ := map_eq_ok_iff.1 h
          exact .inr (.inr (.inl ⟨hk, l, es, ps, rfl, hps, rfl⟩))
        · cases h
      · next hprofiles =>
        cases h
        exact .inr (.inr (.inr ⟨hdefaults, hprofiles, rfl⟩))

/-- The profiles in a tree in order are in order. -/
theorem sorted_of_ofNode {n : Node} {s : Settings} (ordered : Ordered n) (h : ofNode n = .ok s) :
    (s.profiles.map Prod.fst).Pairwise (· < ·) := by
  cases n with
  | table l es =>
    refine foldEntries_induction (P := fun s => (s.profiles.map Prod.fst).Pairwise (· < ·)) ?_
      List.Pairwise.nil h
    intro e he a b ha hb
    have hn : Ordered e.2 := ordered.of_mem he
    -- only one key puts profiles in, with the names of a table that is ordered
    obtain ⟨-, name, rfl⟩ | ⟨-, d, -, rfl⟩ | ⟨-, l', fs, ps, heq, hps, rfl⟩ | ⟨-, -, rfl⟩ :=
      step_cases hb
    · exact ha
    · exact ha
    · rw [heq] at hn
      rw [names_of_profilesOf hps]
      exact Node.sortedKeys_iff.1 hn.sortedKeys
    · exact ha
  | _ => cases h

/-- The profiles in what stands for them. -/
def profilesIn : Node → Except Misfit (List (String × Profile))
  | .table _ es => profilesOf es
  | n => .error (n.mismatch "a map")

variable {l l' : Layer} {es fs : List (String × Node)} {s s' : Settings}

theorem defaults_of_ofNode (hes : SortedKeys es) (h : ofNode (.table l es) = .ok s) :
    (es.lookup "defaults").elim (.ok {}) Defaults.ofNode = .ok s.defaults := by
  refine field_of_foldEntries Settings.defaults Defaults.ofNode ?_ ?_ hes h
  · intro a n b hb
    obtain ⟨hk, -⟩ | ⟨-, d, hd, rfl⟩ | ⟨hk, -⟩ | ⟨hk, -⟩ := step_cases hb
    · exact absurd hk (by decide)
    · exact hd
    · exact absurd hk (by decide)
    · exact absurd rfl hk
  · intro k hk a n b hb
    obtain ⟨-, name, rfl⟩ | ⟨heq, -⟩ | ⟨-, l, es, ps, -, -, rfl⟩ | ⟨-, -, rfl⟩ := step_cases hb
    · rfl
    · exact absurd heq hk
    · rfl
    · rfl

theorem profiles_of_ofNode (hes : SortedKeys es) (h : ofNode (.table l es) = .ok s) :
    (es.lookup "profiles").elim (.ok []) profilesIn = .ok s.profiles := by
  refine field_of_foldEntries Settings.profiles profilesIn ?_ ?_ hes h
  · intro a n b hb
    obtain ⟨hk, -⟩ | ⟨hk, -⟩ | ⟨-, l, es, ps, rfl, hps, rfl⟩ | ⟨-, hk, -⟩ := step_cases hb
    · exact absurd hk (by decide)
    · exact absurd hk (by decide)
    · exact hps
    · exact absurd rfl hk
  · intro k hk a n b hb
    obtain ⟨-, name, rfl⟩ | ⟨-, d, -, rfl⟩ | ⟨heq, -⟩ | ⟨-, -, rfl⟩ := step_cases hb
    · rfl
    · rfl
    · exact absurd heq hk
    · rfl

/-- **Trees that say the same about defaults and profiles give the same ones.** -/
theorem ofNode_agree (hes : SortedKeys es) (hfs : SortedKeys fs)
    (hdefaults : es.lookup "defaults" = fs.lookup "defaults")
    (hprofiles : es.lookup "profiles" = fs.lookup "profiles")
    (h : ofNode (.table l es) = .ok s) (h' : ofNode (.table l' fs) = .ok s') :
    s.defaults = s'.defaults ∧ s.profiles = s'.profiles := by
  have hd := defaults_of_ofNode hes h
  have hp := profiles_of_ofNode hes h
  rw [hdefaults, defaults_of_ofNode hfs h'] at hd
  rw [hprofiles, profiles_of_ofNode hfs h'] at hp
  exact ⟨(Except.ok.inj hd).symm, (Except.ok.inj hp).symm⟩

end RouterMenu.Settings
