import Mathlib.Data.List.Pairwise
import RouterMenu.Proofs.Record.Scalar
import RouterMenu.Proofs.Wire.Sentence
import RouterMenu.Menu.Catalog

/-!
# Records come back from the commands that set them

A record that was written as a command and is read as a row comes back field by field, as far as
the wire carries what the field holds (`Cells.carried`). Fields that are unset are not written. That
none of them is read from the word of another field is a fact of the field list: no two fields have
the same name on the wire, and no field goes on the wire by a name that another bears itself, in
any case (`Descriptor.Apart`). It is checked once for every menu there is (`unambiguous_of_known`),
and all else holds of every list of fields.
-/

namespace RouterMenu

/-! ## Fields that cannot be mistaken for each other -/

/-- Neither of the fields is read from a word that was written for the other: they go by different
names on the wire, and neither bears itself the name by which the other goes. -/
structure Descriptor.Apart (a b : Descriptor) : Prop where
  wires : Text.sameLetters a.wire b.wire = false
  left : Text.sameLetters a.wire b.name = false
  right : Text.sameLetters b.wire a.name = false

theorem Descriptor.Apart.wire_ne {a b : Descriptor} (h : a.Apart b) : a.wire ≠ b.wire := by
  intro he
  have hwires := h.wires
  simp [he, Text.sameLetters] at hwires

theorem Descriptor.Apart.symm {a b : Descriptor} (h : a.Apart b) : b.Apart a where
  wires := by
    have hwires := h.wires
    rw [Text.sameLetters, beq_eq_false_iff_ne] at hwires ⊢
    exact hwires.symm
  left := h.right
  right := h.left

/-- The names of a field, without regard to case: the one on the wire, and its own. -/
def Descriptor.spellings (d : Descriptor) : List Char × List Char :=
  (d.wire.toList.map Text.lower, d.name.toList.map Text.lower)

/-- The fields can be told apart by their words. -/
structure Unambiguous (fields : List Field) : Prop where
  apart : (descriptors fields).Pairwise Descriptor.Apart
  plain : ∀ d ∈ descriptors fields, '=' ∉ d.wire.toList

/-- To tell fields apart it is enough to spell every name once. -/
theorem pairwise_apart_iff {ds : List Descriptor} :
    ds.Pairwise Descriptor.Apart ↔
      (ds.map Descriptor.spellings).Pairwise fun a b => a.1 ≠ b.1 ∧ a.1 ≠ b.2 ∧ b.1 ≠ a.2 := by
  rw [List.pairwise_map]
  refine List.Pairwise.iff fun a b => ?_
  simp only [← beq_eq_false_iff_ne]
  exact ⟨fun h => ⟨h.wires, h.left, h.right⟩, fun ⟨h1, h2, h3⟩ => ⟨h1, h2, h3⟩⟩

instance (fields : List Field) : Decidable (Unambiguous fields) :=
  decidable_of_iff (((descriptors fields).map Descriptor.spellings).Pairwise
        (fun a b => a.1 ≠ b.1 ∧ a.1 ≠ b.2 ∧ b.1 ≠ a.2)
      ∧ ∀ d ∈ descriptors fields, '=' ∉ d.wire.toList)
    ⟨fun ⟨h1, h2⟩ => ⟨pairwise_apart_iff.2 h1, h2⟩,
      fun ⟨h1, h2⟩ => ⟨pairwise_apart_iff.1 h1, h2⟩⟩

/-- **Every menu tells its fields apart.** -/
theorem unambiguous_of_known {m : Menu} (known : m ∈ Menu.samples ++ Menu.catalog) :
    Unambiguous m.fields := by
  have hall : ∀ m ∈ Menu.samples ++ Menu.catalog, Unambiguous m.fields := by decide +kernel
  exact hall m known

namespace Cells

variable {fields : List Field}

/-- What comes back of a record: of every field what the wire carries, and nothing of a field that
has no name on the wire. -/
def carried : {fields : List Field} → Cells fields → Cells fields
  | [], .nil => .nil
  | f :: _, .cons x rest =>
    match f.wire? with
    | none => .cons f.type.zero rest.carried
    | some _ => .cons (f.type.carried x) rest.carried

/-! ## What is written -/

theorem map_fst_entries (r : Cells fields) : r.entries.map Prod.fst = descriptors fields := by
  induction r with
  | nil => rfl
  | @cons f fields x rest ih =>
    cases hd : f.descriptor? with
    | none =>
      rw [descriptors_cons_none hd]
      simp only [entries, hd]
      exact ih
    | some d =>
      rw [descriptors_cons_some hd]
      simp only [entries, hd, List.map_cons, ih]

/-- What an entry holds is what a field can hold that is read as the entry is. -/
theorem exists_contents_of_mem {r : Cells fields} {entry : Descriptor × Value}
    (h : entry ∈ r.entries) :
    ∃ (t : FieldType) (x : t.Carrier), entry.1.coercion = t.coercion ∧ entry.2 = t.toValue x := by
  induction r with
  | nil => simp [entries] at h
  | @cons f fields x rest ih =>
    cases hw : f.wire? with
    | none =>
      simp only [entries, Field.descriptor?_eq_none hw] at h
      exact ih h
    | some wire =>
      simp only [entries, Field.descriptor?_eq_some hw, List.mem_cons] at h
      rcases h with rfl | h
      · exact ⟨f.type, x, rfl, rfl⟩
      · exact ih h

/-- The names and texts that a record is written as. -/
def pairs (r : Cells fields) : List (String × String) :=
  (r.entries.filter isSet).map fun entry => (entry.1.wire, entry.2.encode)

/-- Whatever is written goes by the name of a field on the wire. -/
theorem exists_wire_of_mem_pairs {r : Cells fields} {pair : String × String} (h : pair ∈ r.pairs) :
    ∃ d ∈ descriptors fields, pair.1 = d.wire := by
  obtain ⟨entry, he, rfl⟩ := List.mem_map.1 h
  refine ⟨entry.1, ?_, rfl⟩
  rw [← r.map_fst_entries]
  exact List.mem_map_of_mem (List.mem_of_mem_filter he)

/-- A command that sets a record has an attribute for each field that is set. -/
theorem marshal_eq (path : String) (r : Cells fields) :
    r.marshal path = ⟨path, r.pairs.map fun pair => .attr pair.1 pair.2⟩ := by
  simp [marshal, pairs, Function.comp_def]

/-- Behind its path, a command that sets a record has a word for each field that is set. -/
theorem words_marshal (path : String) (r : Cells fields) :
    (r.marshal path).words = path :: r.pairs.map Wire.attributeWord := by
  rw [marshal_eq, Wire.Command.words, List.map_map]
  rfl

variable {r : Cells fields} (unambiguous : Unambiguous fields)

include unambiguous

theorem pairwise_entries : r.entries.Pairwise fun a b => a.1.Apart b.1 := by
  rw [← List.pairwise_map (f := Prod.fst), r.map_fst_entries]
  exact unambiguous.apart

theorem apart_of_ne {a b : Descriptor × Value} (ha : a ∈ r.entries) (hb : b ∈ r.entries)
    (hne : a ≠ b) : a.1.Apart b.1 := by
  have hsymm : Std.Symm fun a b : Descriptor × Value => a.1.Apart b.1 := ⟨fun _ _ h => h.symm⟩
  exact (pairwise_entries unambiguous).forall ha hb hne

theorem nodup_pairs : (r.pairs.map Prod.fst).Nodup := by
  rw [pairs, List.map_map, List.Nodup, List.pairwise_map]
  exact ((pairwise_entries unambiguous).imp fun h => h.wire_ne).sublist List.filter_sublist

theorem plain_pairs {pair : String × String} (h : pair ∈ r.pairs) : '=' ∉ pair.1.toList := by
  obtain ⟨d, hd, hwire⟩ := exists_wire_of_mem_pairs h
  rw [hwire]
  exact unambiguous.plain d hd

/-- The words of a record are read as the pairs that it was written as. -/
theorem ofWords_marshal (path : String) :
    Wire.Sentence.ofWords (r.marshal path).words.tail = ⟨r.pairs⟩ := by
  rw [words_marshal, List.tail_cons]
  exact Wire.Sentence.ofWords_attributes (fun _ hp => plain_pairs unambiguous hp)
    (nodup_pairs unambiguous)

/-! ## What is found again -/

/-- Whatever is written was written for other fields than one that is not set. -/
theorem apart_of_mem_pairs {entry : Descriptor × Value} (h : entry ∈ r.entries)
    (unset : isSet entry = false) {pair : String × String} (hp : pair ∈ r.pairs) :
    ∃ d : Descriptor, pair.1 = d.wire ∧ d.Apart entry.1 := by
  obtain ⟨other, ho, rfl⟩ := List.mem_map.1 hp
  obtain ⟨hother, hset⟩ := List.mem_filter.1 ho
  have hne : other ≠ entry := by
    rintro rfl
    rw [unset] at hset
    simp at hset
  exact ⟨other.1, rfl, apart_of_ne unambiguous hother h hne⟩

/-- **A field is found in what the record was written as if it is set**, and nothing is found for
one that is not. -/
theorem find?_pairs {entry : Descriptor × Value} (h : entry ∈ r.entries) :
    find? ⟨r.pairs⟩ entry.1 = if isSet entry then some entry.2.encode else none := by
  -- an entry that was left out has no pair of its name, and none that only spells its name
  -- otherwise
  cases hset : isSet entry with
  | true =>
    have hmem : (entry.1.wire, entry.2.encode) ∈ r.pairs :=
      List.mem_map_of_mem (List.mem_filter.2 ⟨h, hset⟩)
    have hget : Wire.Sentence.get? ⟨r.pairs⟩ entry.1.wire = some entry.2.encode :=
      Wire.Sentence.get?_of_mem (s := ⟨r.pairs⟩) (nodup_pairs unambiguous) hmem
    rw [find?, hget]
    rfl
  | false =>
    have hget : Wire.Sentence.get? ⟨r.pairs⟩ entry.1.wire = none := by
      refine Wire.Sentence.get?_of_not_mem fun pair hp => ?_
      obtain ⟨d, hd, hda⟩ := apart_of_mem_pairs unambiguous h hset hp
      rw [hd]
      exact hda.wire_ne
    have hfallback : r.pairs.find? (fun pair => Text.sameLetters pair.1 entry.1.name) = none := by
      rw [List.find?_eq_none]
      intro pair hp
      obtain ⟨d, hd, hda⟩ := apart_of_mem_pairs unambiguous h hset hp
      rw [hd, hda.left]
      simp
    rw [find?, hget]
    simp only [hfallback]
    rfl

omit unambiguous

/-- A field is read from a row as what comes back of its contents, if it is found there. -/
theorem readField_of_found {row : Wire.Sentence} {f : Field} {d : Descriptor} {x : f.type.Carrier}
    (hd : f.descriptor? = some d) (found : find? row d = some (f.type.toValue x).encode) :
    readField row f = .ok (f.type.carried x) := by
  obtain ⟨wire, -, rfl⟩ := Option.map_eq_some_iff.1 hd
  obtain ⟨v, hv, hback⟩ := f.type.decode_encode x
  simp only [readField, hd, found, hv, hback]
  rfl

/-- A record is read field by field. -/
theorem ofRow_cons_iff {row : Wire.Sentence} {f : Field} {x : f.type.Carrier}
    {rest : Cells fields} :
    ofRow row (f :: fields) = .ok (.cons x rest)
      ↔ readField row f = .ok x ∧ ofRow row fields = .ok rest := by
  rw [ofRow]
  cases readField row f with
  | error e => simp
  | ok y => cases ofRow row fields <;> simp

/-- A row in which the fields that are set are found, and no others, is read as what comes back of
the record. -/
theorem ofRow_of_found {row : Wire.Sentence} (r : Cells fields)
    (found : ∀ entry ∈ r.entries,
      find? row entry.1 = if isSet entry then some entry.2.encode else none) :
    ofRow row fields = .ok r.carried := by
  induction r with
  | nil => rfl
  | @cons f fields x rest ih =>
    cases hw : f.wire? with
    | none =>
      have hd := Field.descriptor?_eq_none hw
      simp only [entries, hd] at found
      simp only [ofRow, readField, hd, ih found, carried, hw]
    | some wire =>
      have hd := Field.descriptor?_eq_some hw
      simp only [entries, hd, List.forall_mem_cons] at found
      obtain ⟨hfield, hrest⟩ := found
      simp only [carried, hw]
      refine ofRow_cons_iff.2 ⟨?_, ih hrest⟩
      cases hset : isSet (⟨wire, f.name, f.type.coercion⟩, f.type.toValue x) with
      | true => exact readField_of_found hd (by rw [hfield, hset]; rfl)
      | false =>
        -- it counts as zero, for it was not written
        have hzero : (f.type.toValue x).isZero = true := by
          rw [isSet, Bool.or_eq_false_iff] at hset
          simpa using hset.2
        simp only [readField, hd, hfield, hset, FieldType.carried_of_isZero hzero]
        rfl

/-- **What was written is read back**, if the fields can be told apart. -/
theorem ofRow_marshal_of_unambiguous (unambiguous : Unambiguous fields) (path : String)
    (r : Cells fields) :
    ofRow (Wire.Sentence.ofWords (r.marshal path).words.tail) fields = .ok r.carried := by
  rw [ofWords_marshal unambiguous]
  exact ofRow_of_found r fun entry he => find?_pairs unambiguous he

end Cells

namespace Menu

/-- **A record comes back from the command that sets it.** For every menu there is, whatever the
path and whatever the record holds, the words behind the path are read as a row that describes the
record: every field comes back as it was, but for a number above the greatest signed one of 64 bits,
a negative duration and a field without a name on the wire, which come back as zero. -/
theorem ofRow_marshal {m : Menu} (known : m ∈ samples ++ catalog) (path : String) (r : Record m) :
    Cells.ofRow (Wire.Sentence.ofWords (r.marshal path).words.tail) m.fields = .ok r.carried :=
  Cells.ofRow_marshal_of_unambiguous (unambiguous_of_known known) path r

/-- A record with the contents that `last` and `age` are, and with a text that looks like words. -/
def trial (last : Whole .u64) (age : Whole .i64) (remark : String) : Record sample :=
  .cons "*1" (.cons "a=b\n=name=c" (.cons "" (.cons ⟨-0x80, by decide, by decide⟩
    (.cons .zero (.cons .zero (.cons ⟨-0x8000000000000000, by decide, by decide⟩
      (.cons .zero (.cons .zero (.cons .zero (.cons last (.cons ⟨90, by decide, by decide⟩
        (.cons age (.cons false (.cons remark .nil))))))))))))))

/-- The greatest number, a negative age and a remark are lost, and nothing else is. -/
theorem ofRow_marshal_trial :
    sample ∈ samples ++ catalog
      ∧ Cells.ofRow (Wire.Sentence.ofWords ((trial ⟨0xFFFFFFFFFFFFFFFF, by decide, by decide⟩
          ⟨-5, by decide, by decide⟩ "mine").marshal "/sample/set").words.tail) sample.fields
        = .ok (trial .zero .zero "") := by
  have hknown : sample ∈ samples ++ catalog := by decide
  exact ⟨hknown, ofRow_marshal hknown "/sample/set" _⟩

end Menu

end RouterMenu
