import RouterMenu.Proofs.Client.Selection
import RouterMenu.Proofs.Record.Places
import RouterMenu.Proofs.Wire.Insertion

/-!
# Records with some fields replaced

Two ways to make a record from another one: the text of one field is replaced (`withText`), or a
record is laid over it (`overlay`), of which every flag counts and everything else that is not zero.
Both are about what a device keeps, so it is shown here which rows describe them. A row describes a
record if it holds what the record is written as, anywhere among keys that no field goes by
(`ofRow_of_told`); and it describes an overlay if the fields that are set are found in it, while the
others are found as they were (`ofRow_overlay`).

All fields of the menus there are go over the wire and hold numbers that it can carry
(`carries_of_known`). So what is lost of a record is a negative duration, and nothing of one that is
`Forward`.
-/

namespace RouterMenu

/-! ## Fields that the wire can carry -/

/-- Every number of the type fits the 64 bits of a scalar. -/
def FieldType.Narrow : FieldType → Prop
  | .text | .flag => True
  | .int t | .duration t => t.hi ≤ IntType.i64.hi

instance (t : FieldType) : Decidable t.Narrow :=
  match t with
  | .text | .flag => .isTrue trivial
  | .int t | .duration t => inferInstanceAs (Decidable (t.hi ≤ IntType.i64.hi))

/-- The field has a name on the wire, and none of its numbers is too large. -/
structure Field.Carries (f : Field) : Prop where
  named : f.wire?.isSome = true
  narrow : f.type.Narrow

instance (f : Field) : Decidable f.Carries :=
  decidable_of_iff (f.wire?.isSome = true ∧ f.type.Narrow)
    ⟨fun ⟨h1, h2⟩ => ⟨h1, h2⟩, fun ⟨h1, h2⟩ => ⟨h1, h2⟩⟩

theorem Field.Carries.exists_wire {f : Field} (h : f.Carries) :
    ∃ wire, f.wire? = some wire
      ∧ f.descriptor? = some ⟨wire, f.name, f.type.coercion⟩ := by
  obtain ⟨wire, hw⟩ := Option.isSome_iff_exists.1 h.named
  exact ⟨wire, hw, Field.descriptor?_eq_some hw⟩

/-- **Every field of a menu that can be managed goes over the wire.** -/
theorem carries_of_known {m : Menu} (known : m ∈ Menu.catalog) : ∀ f ∈ m.fields, f.Carries := by
  have hall : ∀ m ∈ Menu.catalog, ∀ f ∈ m.fields, f.Carries := by decide +kernel
  exact hall m known

/-- Whether a scalar is a number below zero. -/
def Value.isNegative : Value → Bool
  | .int n => n.val < 0
  | _ => false

namespace FieldType

/-- A scalar is zero if the contents are. -/
theorem isZero_toValue {t : FieldType} (narrow : t.Narrow) {x : t.Carrier} :
    (t.toValue x).isZero = true ↔ x = t.zero := by
  -- a scalar of 64 bits is zero for a number that does not fit, so the type must be narrow
  have hnumber : ∀ {t : IntType} (n : Whole t), t.hi ≤ IntType.i64.hi →
      ((Value.int (Whole.narrow n.val)).isZero = true ↔ n = Whole.zero) := by
    intro t n ht
    have hval := Whole.narrow_i64_val n
    rw [if_pos (Int.le_trans n.le_hi ht)] at hval
    rw [Value.isZero, beq_iff_eq, hval]
    refine ⟨fun h => ?_, fun h => by rw [h]; rfl⟩
    rw [← n.narrow_val, h, Whole.narrow_zero]
  cases t with
  | text => exact String.isEmpty_iff
  | flag =>
    have hfalse : ∀ b : Bool, (!b) = true ↔ b = false := by decide
    exact hfalse x
  | int t => exact hnumber x narrow
  | duration t => exact hnumber x narrow

/-- Contents that are no negative duration come back from the wire. -/
theorem kept_of_narrow {t : FieldType} (narrow : t.Narrow) {x : t.Carrier}
    (forward : t.coercion = .duration → (t.toValue x).isNegative = false) : t.Kept x := by
  cases t with
  | text => trivial
  | flag => trivial
  | int t => exact Int.le_trans x.le_hi narrow
  | duration t =>
    have hhi : x.val ≤ IntType.i64.hi := Int.le_trans x.le_hi narrow
    have hnegative := forward rfl
    rw [toValue, Value.isNegative, Whole.narrow_i64_val, if_pos hhi, decide_eq_false_iff_not,
      Int.not_lt] at hnegative
    exact ⟨hnegative, hhi⟩

/-- The contents of a field after a change: the new ones if they are a flag, or not zero. -/
def overlay (t : FieldType) (x y : t.Carrier) : t.Carrier := if t = .flag ∨ x ≠ t.zero then x else y

/-- A change of a field is written exactly if it counts. -/
theorem isSet_iff {t : FieldType} (narrow : t.Narrow) (wire name : String) (x : t.Carrier) :
    Cells.isSet (⟨wire, name, t.coercion⟩, t.toValue x) = true ↔ t = .flag ∨ x ≠ t.zero := by
  have hflag : t.coercion = .flag ↔ t = .flag := by cases t <;> simp [coercion]
  rw [Cells.isSet, Bool.or_eq_true, beq_iff_eq, hflag, Bool.not_eq_true', ← Bool.not_eq_true,
    isZero_toValue narrow]

end FieldType

namespace Cells

variable {fields : List Field}

/-- No duration of the record is negative. -/
def Forward (r : Cells fields) : Prop :=
  ∀ entry ∈ r.entries, entry.1.coercion = .duration → entry.2.isNegative = false

instance (r : Cells fields) : Decidable r.Forward :=
  inferInstanceAs (Decidable (∀ entry ∈ r.entries, _ → _))

/-- **Nothing is lost of a record without negative durations.** -/
theorem carried_of_forward {r : Cells fields} (carries : ∀ f ∈ fields, f.Carries)
    (forward : r.Forward) : r.carried = r := by
  induction r with
  | nil => rfl
  | @cons f fields x rest ih =>
    rw [List.forall_mem_cons] at carries
    obtain ⟨hf, hfields⟩ := carries
    obtain ⟨wire, hw, hd⟩ := hf.exists_wire
    simp only [Forward, entries, hd, List.forall_mem_cons] at forward
    obtain ⟨hx, hrest⟩ := forward
    simp only [carried, hw, ih hfields hrest]
    rw [FieldType.carried_of_kept (FieldType.kept_of_narrow hf.narrow hx)]

/-! ## One field of text replaced -/

/-- The record with another text in the field of a given name on the wire. -/
def withText (r : Cells fields) (wire text : String) : Cells fields :=
  match lookup? fields wire with
  | some (i, _) => r.set i (.text text)
  | none => r

/-- Text put into a field of text changes this entry only. -/
theorem entries_set_text {r : Cells fields} {i : Nat} {entry : Descriptor × Value}
    (h : r.entries[i]? = some entry) (text : entry.1.coercion = .text) (s : String) :
    (r.set i (.text s)).entries = r.entries.set i (entry.1, .text s) := by
  have hdescriptor : (descriptors fields)[i]? = some entry.1 := by
    rw [← r.map_fst_entries, List.getElem?_map, h, Option.map_some]
  obtain ⟨f, hplace, hf⟩ := exists_wired_of_descriptor hdescriptor
  rw [Field.coercion_of_descriptor? hf] at text
  obtain ⟨name, type, wire?⟩ := f
  cases type with
  | text =>
    have htaken : FieldType.text.ofValue? (.text s) = some s := rfl
    exact entries_set hplace hf htaken
  | flag => cases text
  | int t => cases text
  | duration t => cases text

/-- The text of a field, as it stands among the entries. -/
theorem textOf_of_mem (unambiguous : Unambiguous fields) {r : Cells fields} {d : Descriptor}
    {s : String} (h : (d, Value.text s) ∈ r.entries) : r.textOf d.wire = s := by
  have hfind : r.entries.find? (fun other => other.1.wire == d.wire) = some (d, .text s) := by
    rw [← List.head?_filter, filter_entries unambiguous h]
    rfl
  rw [textOf, hfind]

end Cells

/-- A field is looked up by its name on the wire. -/
theorem lookup?_of_mem {fields : List Field} (unambiguous : Unambiguous fields) {d : Descriptor}
    (h : d ∈ descriptors fields) :
    ∃ i, lookup? fields d.wire = some (i, d) ∧ (descriptors fields)[i]? = some d := by
  obtain ⟨i, hi⟩ := List.mem_iff_getElem?.1 h
  exact ⟨i, (lookup?_eq_some_iff unambiguous).2 ⟨hi, rfl⟩, hi⟩

namespace Cells

variable {fields : List Field} {r : Cells fields}

/-- **Another text in a field** leaves every other field as it is. -/
theorem entries_withText (unambiguous : Unambiguous fields) {d : Descriptor}
    (h : d ∈ descriptors fields) (text : d.coercion = .text) (r : Cells fields) (s : String) :
    (r.withText d.wire s).entries
      = r.entries.map fun entry => if entry.1.wire = d.wire then (entry.1, .text s) else entry := by
  obtain ⟨i, hlookup, hi⟩ := lookup?_of_mem unambiguous h
  rw [← r.map_fst_entries, List.getElem?_map] at hi
  obtain ⟨entry, hentry, rfl⟩ := Option.map_eq_some_iff.1 hi
  have hset := entries_set_text hentry text s
  simp only [withText, hlookup, hset]
  refine List.ext_getElem? fun j => ?_
  rw [List.getElem?_set, List.getElem?_map]
  split
  · next hij =>
    subst hij
    rw [hentry]
    simp [(List.getElem?_eq_some_iff.1 hentry).1]
  · next hij =>
    cases hj : r.entries[j]? with
    | none => rfl
    | some other =>
      -- fields in different places have different names
      have hpair := pairwise_entries (r := r) unambiguous
      have hne : other.1.wire ≠ entry.1.wire := by
        obtain ⟨hi', rfl⟩ := List.getElem?_eq_some_iff.1 hentry
        obtain ⟨hj', rfl⟩ := List.getElem?_eq_some_iff.1 hj
        rcases Nat.lt_or_gt_of_ne hij with hlt | hlt
        · exact (List.pairwise_iff_getElem.1 hpair i j hi' hj' hlt).wire_ne.symm
        · exact (List.pairwise_iff_getElem.1 hpair j i hj' hi' hlt).wire_ne
      simp [hne]

/-- What a record is written as with another text in a field. -/
theorem mem_pairs_withText (unambiguous : Unambiguous fields) {d : Descriptor}
    (h : d ∈ descriptors fields) (text : d.coercion = .text) {s : String} (hs : s ≠ "")
    {pair : String × String} :
    pair ∈ (r.withText d.wire s).pairs
      ↔ pair ∈ Wire.Sentence.put d.wire s r.pairs := by
  rw [Wire.Sentence.mem_put (nodup_pairs unambiguous)]
  simp only [pairs, entries_withText unambiguous h text, List.mem_map, List.mem_filter]
  constructor
  · rintro ⟨_, ⟨⟨entry, he, rfl⟩, hset⟩, rfl⟩
    -- the entry of this name holds the new text, and the others what they held
    split at hset
    · next hwire => simp [hwire, Value.encode]
    · next hwire =>
      simp only [hwire, if_false]
      exact .inr ⟨⟨entry, ⟨he, hset⟩, rfl⟩, hwire⟩
  · rintro (rfl | ⟨⟨entry, ⟨he, hset⟩, rfl⟩, hwire⟩)
    · rw [← r.map_fst_entries] at h
      obtain ⟨entry, he, rfl⟩ := List.mem_map.1 h
      refine ⟨(entry.1, .text s), ⟨⟨entry, he, by simp⟩, ?_⟩, rfl⟩
      simp [isSet, Value.isZero, hs]
    · exact ⟨entry, ⟨⟨entry, he, by simp only [hwire, if_false]⟩, hset⟩, rfl⟩

theorem forward_withText (unambiguous : Unambiguous fields) {d : Descriptor}
    (h : d ∈ descriptors fields) (text : d.coercion = .text) (forward : r.Forward) (s : String) :
    (r.withText d.wire s).Forward := by
  intro entry he hduration
  rw [entries_withText unambiguous h text] at he
  obtain ⟨old, hold, rfl⟩ := List.mem_map.1 he
  split
  · rfl
  · next hwire =>
    rw [if_neg hwire] at hduration
    exact forward old hold hduration

end Cells

/-! ## Rows that tell of a record -/

/-- The name is not that of a field, on the wire or of its own. -/
def Unclaimed (fields : List Field) (name : String) : Prop :=
  ∀ d ∈ descriptors fields, name ≠ d.wire ∧ Text.sameLetters name d.name = false

instance (fields : List Field) (name : String) : Decidable (Unclaimed fields name) :=
  inferInstanceAs (Decidable (∀ d ∈ descriptors fields, _ ∧ _))

/-- Two lists in which the same element passes a test, and no other, have it found in them. -/
theorem find?_eq_of_unique {α : Type} {p : α → Bool} {l₁ l₂ : List α}
    (same : ∀ x, p x = true → (x ∈ l₁ ↔ x ∈ l₂))
    (one : ∀ x ∈ l₂, ∀ y ∈ l₂, p x = true → p y = true → x = y) : l₁.find? p = l₂.find? p := by
  cases h : l₁.find? p with
  | none =>
    rw [List.find?_eq_none] at h
    exact (List.find?_eq_none.2 fun x hx hp => h x ((same x hp).2 hx) hp).symm
  | some x =>
    have hx : p x = true := List.find?_some h
    have hmem : x ∈ l₂ := (same x hx).1 (List.mem_of_find?_eq_some h)
    cases h' : l₂.find? p with
    | none => exact absurd hx (List.find?_eq_none.1 h' x hmem)
    | some y =>
      rw [one x hmem y (List.mem_of_find?_eq_some h') hx (List.find?_some h')]

namespace Cells

variable {fields : List Field} {r : Cells fields} {row : Wire.Sentence}

/-- The row holds what the record is written as, anywhere among keys that belong to no field. -/
structure ToldBy (r : Cells fields) (row : Wire.Sentence) : Prop where
  held : ∀ pair ∈ r.pairs, pair ∈ row.pairs
  foreign : ∀ pair ∈ row.pairs, pair ∈ r.pairs ∨ Unclaimed fields pair.1

/-- **Fields are found among foreign keys, in any order.** -/
theorem ToldBy.find?_eq (told : r.ToldBy row) (unambiguous : Unambiguous fields)
    {entry : Descriptor × Value} (h : entry ∈ r.entries) :
    find? row entry.1 = if isSet entry then some entry.2.encode else none := by
  have hd : entry.1 ∈ descriptors fields := by
    rw [← r.map_fst_entries]
    exact List.mem_map_of_mem h
  -- whatever could be taken for the field was written for it
  have hown : ∀ pair ∈ r.pairs,
      pair.1 = entry.1.wire ∨ Text.sameLetters pair.1 entry.1.name = true →
        pair = (entry.1.wire, entry.2.encode) := by
    intro pair hp hname
    obtain ⟨other, ho, rfl⟩ := List.mem_map.1 hp
    by_cases he : other = entry
    · rw [he]
    · have hapart := apart_of_ne unambiguous (List.mem_of_mem_filter ho) h he
      rcases hname with hname | hname
      · exact absurd hname hapart.wire_ne
      · exact absurd (hapart.left ▸ hname) Bool.false_ne_true
  have hsame : ∀ pair : String × String,
      pair.1 = entry.1.wire ∨ Text.sameLetters pair.1 entry.1.name = true →
        (pair ∈ row.pairs ↔ pair ∈ r.pairs) := by
    intro pair hname
    refine ⟨fun hp => (told.foreign pair hp).resolve_right fun hfree => ?_, told.held pair⟩
    rcases hname with hname | hname
    · exact (hfree entry.1 hd).1 hname
    · exact absurd ((hfree entry.1 hd).2 ▸ hname) Bool.false_ne_true
  have hwire : row.pairs.find? (fun pair => pair.1 == entry.1.wire)
      = r.pairs.find? fun pair => pair.1 == entry.1.wire := by
    refine find?_eq_of_unique (fun pair hp => hsame pair (.inl (eq_of_beq hp))) ?_
    intro a ha b hb hpa hpb
    rw [hown a ha (.inl (eq_of_beq hpa)), hown b hb (.inl (eq_of_beq hpb))]
  have hname : row.pairs.find? (fun pair => Text.sameLetters pair.1 entry.1.name)
      = r.pairs.find? fun pair => Text.sameLetters pair.1 entry.1.name := by
    refine find?_eq_of_unique (fun pair hp => hsame pair (.inr hp)) ?_
    intro a ha b hb hpa hpb
    rw [hown a ha (.inr hpa), hown b hb (.inr hpb)]
  rw [← find?_pairs unambiguous h]
  simp only [find?, Wire.Sentence.get?, hwire, hname]

/-- **A row is read as the record it tells of.** -/
theorem ofRow_of_told (unambiguous : Unambiguous fields) (told : r.ToldBy row) :
    ofRow row fields = .ok r.carried :=
  ofRow_of_found r fun _ he => told.find?_eq unambiguous he

/-! ## One record over another -/

/-- A record after a change: of every field the new contents if they count, or else the old. -/
def overlay : {fields : List Field} → Cells fields → Cells fields → Cells fields
  | [], .nil, .nil => .nil
  | f :: _, .cons x r, .cons y old => .cons (f.type.overlay x y) (r.overlay old)

/-- **Field by field** it is what the change sets, and what was there otherwise. -/
theorem entries_overlay (carries : ∀ f ∈ fields, f.Carries) (r old : Cells fields) :
    (r.overlay old).entries
      = List.zipWith (fun new kept => if isSet new then new else kept) r.entries old.entries := by
  induction r with
  | nil => cases old; rfl
  | @cons f fields x rest ih =>
    cases old with
    | cons y old =>
      rw [List.forall_mem_cons] at carries
      obtain ⟨hf, hfields⟩ := carries
      obtain ⟨wire, -, hd⟩ := hf.exists_wire
      simp only [overlay, entries, hd, List.zipWith_cons_cons, ih hfields]
      congr 1
      -- that an entry is set is just that its field is not zero
      by_cases hset : isSet (⟨wire, f.name, f.type.coercion⟩, f.type.toValue x) = true
      · rw [if_pos hset, FieldType.overlay,
          if_pos ((FieldType.isSet_iff hf.narrow wire f.name x).1 hset)]
      · rw [if_neg hset, FieldType.overlay,
          if_neg fun h => hset ((FieldType.isSet_iff hf.narrow wire f.name x).2 h)]

/-- What is set by a change is so after it. -/
theorem mem_entries_overlay (carries : ∀ f ∈ fields, f.Carries) {r old : Cells fields}
    {entry : Descriptor × Value} (h : entry ∈ r.entries) (set : isSet entry = true) :
    entry ∈ (r.overlay old).entries := by
  obtain ⟨i, hi⟩ := List.mem_iff_getElem?.1 h
  -- both records have the same fields, so there is something in this place of the other
  have hlength : old.entries.length = r.entries.length := by
    rw [← List.length_map (f := Prod.fst), map_fst_entries, ← r.map_fst_entries, List.length_map]
  obtain ⟨hlt, -⟩ := List.getElem?_eq_some_iff.1 hi
  obtain ⟨kept, hold⟩ : ∃ kept, old.entries[i]? = some kept :=
    ⟨_, List.getElem?_eq_getElem (hlength ▸ hlt)⟩
  refine List.mem_of_getElem? (i := i) ?_
  rw [entries_overlay carries, List.getElem?_zipWith, hi, hold]
  exact congrArg some (if_pos set)

/-- A field is read as its new contents if they are found in the row, and as it was otherwise. -/
theorem readField_overlay {old : Wire.Sentence} {f : Field} {d : Descriptor} {x y : f.type.Carrier}
    (hd : f.descriptor? = some d) (carries : f.Carries)
    (forward : d.coercion = .duration → (f.type.toValue x).isNegative = false)
    (read : readField old f = .ok y)
    (found : find? row d
      = if isSet (d, f.type.toValue x) then some (f.type.toValue x).encode else find? old d) :
    readField row f = .ok (f.type.overlay x y) := by
  obtain ⟨wire, -, rfl⟩ := Option.map_eq_some_iff.1 hd
  have hcounts := FieldType.isSet_iff carries.narrow wire f.name x
  -- either the new text is found, or the one that the old row had
  split at found
  · next hset =>
    rw [FieldType.overlay, if_pos (hcounts.1 hset), readField_of_found hd found,
      FieldType.carried_of_kept (FieldType.kept_of_narrow carries.narrow forward)]
  · next hset =>
    rw [FieldType.overlay, if_neg fun h => hset (hcounts.2 h), ← read]
    simp only [readField, hd, found]

/-- **A row in which the fields that are set are found, and the others as they were,** is read as
the one record over the other. -/
theorem ofRow_overlay {old : Wire.Sentence} {r o : Cells fields}
    (carries : ∀ f ∈ fields, f.Carries) (forward : r.Forward) (read : ofRow old fields = .ok o)
    (found : ∀ entry ∈ r.entries, find? row entry.1
      = if isSet entry then some entry.2.encode else find? old entry.1) :
    ofRow row fields = .ok (r.overlay o) := by
  induction r with
  | nil => cases o; rfl
  | @cons f fields x rest ih =>
    cases o with
    | cons y o =>
      rw [List.forall_mem_cons] at carries
      obtain ⟨hf, hfields⟩ := carries
      obtain ⟨hy, ho⟩ := ofRow_cons_iff.1 read
      obtain ⟨wire, -, hd⟩ := hf.exists_wire
      simp only [Forward, entries, hd, List.forall_mem_cons] at forward found
      exact ofRow_cons_iff.2 ⟨readField_overlay hd hf forward.1 hy found.1,
        ih hfields forward.2 ho found.2⟩

/-- **After what is set by a change was inserted into a row,** the fields that are set are found
with what was written for them, and the others as they were. -/
theorem find?_insertAll (unambiguous : Unambiguous fields) {entry : Descriptor × Value}
    (h : entry ∈ r.entries) (old : Wire.Sentence) :
    find? (old.insertAll r.pairs) entry.1
      = if isSet entry then some entry.2.encode else find? old entry.1 := by
  -- what is set was inserted, and what is not set is not called like anything that was
  cases hset : isSet entry with
  | true =>
    have hmem : (entry.1.wire, entry.2.encode) ∈ r.pairs :=
      List.mem_map_of_mem (List.mem_filter.2 ⟨h, hset⟩)
    have hget : (old.insertAll r.pairs).get? entry.1.wire = some entry.2.encode :=
      Wire.Sentence.get?_insertAll_of_mem (nodup_pairs unambiguous) hmem old
    rw [find?, hget]
    rfl
  | false =>
    have hget : (old.insertAll r.pairs).get? entry.1.wire = old.get? entry.1.wire := by
      refine Wire.Sentence.get?_insertAll_of_not_mem (fun pair hp => ?_) old
      obtain ⟨d, hd, hda⟩ := apart_of_mem_pairs unambiguous h hset hp
      rw [hd]
      exact hda.wire_ne
    have hname : ∀ pair ∈ r.pairs, Text.sameLetters pair.1 entry.1.name = false := by
      intro pair hp
      obtain ⟨d, hd, hda⟩ := apart_of_mem_pairs unambiguous h hset hp
      rw [hd]
      exact hda.left
    have hfallback := Wire.Sentence.find?_insertAll_of_false
      (p := fun name => Text.sameLetters name entry.1.name) hname old
    simp only [find?, hget, hfallback]
    rfl

end Cells

end RouterMenu
