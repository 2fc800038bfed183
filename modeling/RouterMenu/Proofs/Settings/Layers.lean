import RouterMenu.Settings.Environment

/-!
# What layers say when they are laid over each other

The entries of a table are ordered by their keys (`SortedKeys`), so a table is known once it is
known what it says under every key (`SortedKeys.ext`). Putting an entry into a table changes what it
says under that key only, and laying a table over another is decided key by key: what one of them
alone says stands, and where both say something the one above is laid over the one below
(`lookup_overlayEntries`). All that layers are made of keeps the order (`Ordered`), at every depth.
-/

namespace RouterMenu.Settings

namespace Node

variable {k : String} {v : Node} {es news : List (String × Node)}

/-! ## Entries in order -/

/-- Every key stands before all later ones. -/
def SortedKeys (es : List (String × Node)) : Prop := es.Pairwise fun a b => a.1 < b.1

instance (es : List (String × Node)) : Decidable (SortedKeys es) :=
  inferInstanceAs (Decidable (es.Pairwise fun a b => a.1 < b.1))

theorem lookup_cons_eq (k' k : String) (v : Node) (es : List (String × Node)) :
    ((k, v) :: es).lookup k' = if k' = k then some v else es.lookup k' := by
  rw [List.lookup_cons]
  by_cases h : k' = k
  · rw [if_pos h, beq_iff_eq.2 h]
  · rw [if_neg h, beq_eq_false_iff_ne.2 h]

theorem nodup_of_sorted {ks : List String} (h : ks.Pairwise (· < ·)) : ks.Nodup := by
  refine h.imp fun {a b} hlt heq => ?_
  exact String.lt_irrefl b (heq ▸ hlt)

theorem sortedKeys_iff : SortedKeys es ↔ (es.map Prod.fst).Pairwise (· < ·) :=
  List.pairwise_map.symm

theorem lookup_eq_none {α : Type} {es : List (String × α)} (h : k ∉ es.map Prod.fst) :
    es.lookup k = none := by
  rw [List.lookup_eq_none_iff]
  intro e he
  rw [bne_iff_ne]
  rintro rfl
  exact h (List.mem_map_of_mem he)

theorem lookup_eq_none_of_lt (h : ∀ e ∈ es, k < e.1) : es.lookup k = none := by
  refine lookup_eq_none fun hmem => ?_
  obtain ⟨e, he, rfl⟩ := List.mem_map.1 hmem
  exact String.lt_irrefl _ (h e he)

theorem mem_of_lookup {α : Type} {es : List (String × α)} {a : α} (h : es.lookup k = some a) :
    (k, a) ∈ es := by
  obtain ⟨before, after, rfl, -⟩ := List.lookup_eq_some_iff.1 h
  exact List.mem_append_right _ (List.mem_cons_self ..)

/-- Entries under other keys may be left out. -/
theorem lookup_filter {α : Type} {p : String × α → Bool} (h : ∀ a, p (k, a) = true)
    (es : List (String × α)) : (es.filter p).lookup k = es.lookup k := by
  induction es with
  | nil => rfl
  | cons e es ih =>
    obtain ⟨l, a⟩ := e
    by_cases hl : k = l
    · rw [← hl, List.filter_cons_of_pos (h a), List.lookup_cons_self, List.lookup_cons_self]
    · have hpast : ((l, a) :: es).lookup k = es.lookup k := by
        rw [List.lookup_cons, beq_eq_false_iff_ne.2 hl]
      rw [hpast, List.filter_cons]
      split
      · rw [List.lookup_cons, beq_eq_false_iff_ne.2 hl]
        exact ih
      · exact ih

/-- **Entries in order are determined by what they say.** -/
theorem SortedKeys.ext {fs : List (String × Node)} (hes : SortedKeys es) (hfs : SortedKeys fs)
    (h : ∀ k, es.lookup k = fs.lookup k) : es = fs := by
  induction es generalizing fs with
  | nil =>
    cases fs with
    | nil => rfl
    | cons f fs =>
      have hf := h f.1
      rw [lookup_cons_eq, if_pos rfl] at hf
      cases hf
  | cons e es ih =>
    cases fs with
    | nil =>
      have he := h e.1
      rw [lookup_cons_eq, if_pos rfl] at he
      cases he
    | cons f fs =>
      obtain ⟨ke, ve⟩ := e
      obtain ⟨kf, vf⟩ := f
      obtain ⟨hbefore, hsorted⟩ := List.pairwise_cons.1 hes
      obtain ⟨hbefore', hsorted'⟩ := List.pairwise_cons.1 hfs
      -- the first key of each is found in the other, so neither comes before the other
      have hkey : ke = kf := by
        refine Decidable.byContradiction fun hne => ?_
        have hein := h ke
        rw [lookup_cons_eq, lookup_cons_eq, if_pos rfl, if_neg hne] at hein
        have hfin := h kf
        rw [lookup_cons_eq, lookup_cons_eq, if_pos rfl, if_neg (Ne.symm hne)] at hfin
        have hlt := hbefore _ (mem_of_lookup hfin)
        exact String.lt_asymm (hbefore' _ (mem_of_lookup hein.symm)) hlt
      subst hkey
      have hvalue : ve = vf := by
        have hin := h ke
        rw [lookup_cons_eq, lookup_cons_eq, if_pos rfl, if_pos rfl] at hin
        exact Option.some.inj hin
      have hrest : ∀ k, es.lookup k = fs.lookup k := by
        intro k
        by_cases heq : k = ke
        · rw [heq, lookup_eq_none_of_lt hbefore, lookup_eq_none_of_lt hbefore']
        · have hin := h k
          rwa [lookup_cons_eq, lookup_cons_eq, if_neg heq, if_neg heq] at hin
      rw [hvalue, ih hsorted hsorted' hrest]

theorem lookup_put (k : String) (v : Node) (es : List (String × Node)) (k' : String) :
    (put k v es).lookup k' = if k' = k then some v else es.lookup k' := by
  induction es with
  | nil => rw [put, lookup_cons_eq]
  | cons e es ih =>
    obtain ⟨l, w⟩ := e
    rw [put]
    split
    · -- the key stands here: only its value changes
      next heq =>
      rw [lookup_cons_eq, lookup_cons_eq, heq]
      split <;> rfl
    · next hne =>
      split
      · -- the key comes in front of this entry
        rw [lookup_cons_eq]
      · -- or somewhere behind it, where the entry here is found as before
        rw [lookup_cons_eq, ih, lookup_cons_eq]
        by_cases hl : k' = l
        · rw [if_pos hl, if_pos hl, if_neg (hl ▸ hne)]
        · rw [if_neg hl, if_neg hl]

theorem mem_put {e : String × Node} (h : e ∈ put k v es) : e = (k, v) ∨ e ∈ es := by
  induction es with
  | nil => exact .inl (List.mem_singleton.1 h)
  | cons f es ih =>
    obtain ⟨l, w⟩ := f
    rw [put] at h
    split at h
    · rcases List.mem_cons.1 h with rfl | h
      · exact .inl rfl
      · exact .inr (List.mem_cons_of_mem _ h)
    · split at h
      · exact List.mem_cons.1 h
      · rcases List.mem_cons.1 h with rfl | h
        · exact .inr (List.mem_cons_self ..)
        · exact (ih h).imp_right (List.mem_cons_of_mem _)

theorem SortedKeys.put (h : SortedKeys es) (k : String) (v : Node) : SortedKeys (put k v es) := by
  induction es with
  | nil => exact List.pairwise_singleton ..
  | cons e es ih =>
    obtain ⟨l, w⟩ := e
    obtain ⟨hbefore, hes⟩ := List.pairwise_cons.1 h
    rw [Node.put]
    split
    · next heq => exact List.pairwise_cons.2 ⟨heq ▸ hbefore, hes⟩
    · next hne =>
      split
      · next hlt =>
        -- what stood first comes behind the new key, and so does all that stood behind it
        refine List.pairwise_cons.2 ⟨fun f hf => ?_, h⟩
        rcases List.mem_cons.1 hf with rfl | hf
        · exact hlt
        · exact String.lt_trans hlt (hbefore f hf)
      · next hge =>
        -- behind this entry come its old successors and the new key, which is above it
        refine List.pairwise_cons.2 ⟨fun f hf => ?_, ih hes⟩
        rcases mem_put hf with rfl | hf
        · exact Std.lt_of_le_of_ne (String.not_lt.1 hge) hne
        · exact hbefore f hf

/-! ## Tables over tables -/

theorem sortedKeys_overlayEntries (h : SortedKeys es) (news : List (String × Node)) :
    SortedKeys (overlayEntries es news) := by
  induction news generalizing es with
  | nil => rwa [overlayEntries]
  | cons e news ih =>
    rw [overlayEntries]
    exact ih (h.put ..)

/-- What one table says under a key, laid over what another does. -/
def overlay? : Option Node → Option Node → Option Node
  | old?, none => old?
  | none, some v => some v
  | some old, some v => some (overlay old v)

/-- **Tables are laid over each other key by key.** -/
theorem lookup_overlayEntries (olds : List (String × Node)) (hnews : SortedKeys news)
    (k : String) :
    (overlayEntries olds news).lookup k = overlay? (olds.lookup k) (news.lookup k) := by
  induction news generalizing olds with
  | nil => rw [overlayEntries, List.lookup_nil, overlay?]
  | cons e news ih =>
    obtain ⟨l, v⟩ := e
    obtain ⟨hbefore, hsorted⟩ := List.pairwise_cons.1 hnews
    rw [overlayEntries, ih _ hsorted, lookup_put, lookup_cons_eq]
    by_cases hk : k = l
    · -- no later entry has this key again
      rw [if_pos hk, if_pos hk, hk, lookup_eq_none_of_lt hbefore]
      cases olds.lookup l <;> rfl
    · rw [if_neg hk, if_neg hk]

/-- Over nothing, a table in order stands as it is. -/
theorem overlayEntries_nil (hnews : SortedKeys news) : overlayEntries [] news = news := by
  refine (sortedKeys_overlayEntries List.Pairwise.nil news).ext hnews fun k => ?_
  rw [lookup_overlayEntries [] hnews]
  cases news.lookup k <;> rfl

/-! ## Order at every depth -/

/-- Whether a node is a table. -/
def isTable : Node → Bool
  | .table .. => true
  | _ => false

/-- All tables of a node are in order. Lists do not count: nothing is laid over what is in them. -/
inductive Ordered : Node → Prop where
  | table {l : Layer} {es : List (String × Node)} (sorted : SortedKeys es)
      (inner : ∀ e ∈ es, Ordered e.2) : Ordered (.table l es)
  | other {n : Node} (bare : n.isTable = false) : Ordered n

theorem ordered_empty (l : Layer) : Ordered (.table l []) := by
  refine .table List.Pairwise.nil fun e he => ?_
  cases he

theorem Ordered.sortedKeys {l : Layer} (h : Ordered (.table l es)) : SortedKeys es := by
  cases h with
  | table sorted _ => exact sorted
  | other bare => cases bare

theorem Ordered.of_mem {l : Layer} (h : Ordered (.table l es)) {e : String × Node} (he : e ∈ es) :
    Ordered e.2 := by
  cases h with
  | table _ inner => exact inner e he
  | other bare => cases bare

theorem Ordered.put {l : Layer} (h : Ordered (.table l es)) (k : String) {v : Node}
    (hv : Ordered v) : Ordered (.table l (put k v es)) := by
  refine .table (h.sortedKeys.put k v) fun e he => ?_
  rcases mem_put he with rfl | he
  · exact hv
  · exact h.of_mem he

theorem overlay_table (l l' : Layer) (olds news : List (String × Node)) :
    overlay (.table l olds) (.table l' news) = .table l' (overlayEntries olds news) := by
  rw [overlay]

/-- Whatever is no table covers what it is laid over. -/
theorem overlay_of_bare (old : Node) {new : Node} (bare : new.isTable = false) :
    overlay old new = new := by
  cases new with
  | table l es => cases bare
  | _ =>
    rw [overlay]
    intro l es h
    cases h

/-- A table covers whatever is no table. -/
theorem overlay_over_bare {old : Node} (l : Layer) (news : List (String × Node))
    (bare : old.isTable = false) : overlay old (.table l news) = .table l news := by
  cases old with
  | table l es => cases bare
  | _ =>
    rw [overlay]
    intro l es h
    cases h

theorem Ordered.overlayEntries {l : Layer} (h : Ordered (.table l es))
    (hnews : ∀ e ∈ news, ∀ old, Ordered old → Ordered (old.overlay e.2) ∧ Ordered e.2) :
    Ordered (.table l (overlayEntries es news)) := by
  induction news generalizing es with
  | nil => rwa [Node.overlayEntries]
  | cons e news ih =>
    obtain ⟨k, v⟩ := e
    rw [List.forall_mem_cons] at hnews
    rw [Node.overlayEntries]
    refine ih (h.put k ?_) hnews.2
    cases hold : es.lookup k with
    | none => exact (hnews.1 _ h).2
    | some old => exact (hnews.1 old (h.of_mem (mem_of_lookup hold))).1

/-- **Layers in order make a tree in order.** -/
theorem Ordered.overlay {old new : Node} (hold : Ordered old) (hnew : Ordered new) :
    Ordered (old.overlay new) := by
  induction hnew generalizing old with
  | other bare => rw [overlay_of_bare old bare]; exact .other bare
  | @table l news sorted inner ih =>
    cases old with
    | table l' olds =>
      have holds : Ordered (.table l olds) := .table hold.sortedKeys fun e he => hold.of_mem he
      rw [overlay_table]
      exact holds.overlayEntries fun e he old hordered => ⟨ih e he hordered, inner e he⟩
    | _ =>
      rw [overlay_over_bare l news rfl]
      exact .table sorted inner

theorem ordered_nest (l : Layer) {v : Node} (hv : Ordered v) (path : List String) :
    Ordered (nest l v path) := by
  induction path with
  | nil => exact hv
  | cons k path ih =>
    refine .table (List.pairwise_singleton ..) fun e he => ?_
    rw [List.mem_singleton] at he
    rw [he]
    exact ih

end Node

end RouterMenu.Settings
