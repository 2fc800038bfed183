import RouterMenu.Proofs.Record.RoundTrip

/-!
# What was read is read again

A device may spell a value in many ways, and whatever it sends is read: a name in any case, a flag
as `TRUE`, a duration as days and a clock, a number that does not fit as zero. Behind each of these
spellings is a value that can be written, and writing gives it the one spelling that is read back.
So one trip through a command changes nothing in a record that was read (`carried_of_ofRow`), and
the records that some row describes are exactly those that lose nothing (`exists_ofRow_iff`).
-/

namespace RouterMenu

/-! ## What a scalar is read as -/

/-- A number is narrowed to itself or to zero. -/
theorem Whole.narrow_val_cases {t : IntType} (n : Int) :
    (narrow n : Whole t).val = n ∨ (narrow n : Whole t).val = 0 := by
  by_cases h : t.lo ≤ n ∧ n ≤ t.hi
  · exact .inl (by rw [narrow_of_fits h.1 h.2])
  · exact .inr (by rw [narrow_of_not_fits h]; rfl)

/-- A scalar that is a number stays within its 64 bits when a field takes it in. -/
theorem Whole.narrow_val_le {t : IntType} (n : Whole .i64) :
    (narrow n.val : Whole t).val ≤ IntType.i64.hi := by
  rcases narrow_val_cases (t := t) n.val with hv | hv
  · rw [hv]
    exact n.le_hi
  · rw [hv]
    exact IntType.hi_nonneg .i64

/-- A duration is read as a number of seconds that is not negative. -/
theorem Coercion.duration_nonneg {s : String} {n : Whole .i64}
    (h : Coercion.duration.decode s = .ok (.int n)) : 0 ≤ n.val := by
  simp only [Coercion.decode] at h
  split at h
  · next seconds hd =>
    simp only [Except.ok.injEq, Value.int.injEq] at h
    subst h
    rcases Whole.narrow_val_cases (t := .i64) (seconds : Int) with hv | hv
    · rw [hv]
      exact Int.natCast_nonneg seconds
    · exact Int.le_of_eq hv.symm
  · simp at h

namespace FieldType

theorem kept_zero (t : FieldType) : t.Kept t.zero := by
  cases t with
  | text => trivial
  | flag => trivial
  | int t => exact IntType.hi_nonneg .i64
  | duration t => exact ⟨Int.le_refl 0, IntType.hi_nonneg .i64⟩

/-- **What is read into a field comes back from the wire**, however it was spelled. -/
theorem kept_of_decode {t : FieldType} {s : String} {v : Value} {x : t.Carrier}
    (hread : t.coercion.decode s = .ok v) (hx : t.ofValue? v = some x) : t.Kept x := by
  -- a number was narrowed on its way in, so it is within the range of its type
  cases t with
  | text => trivial
  | flag => trivial
  | int t =>
    cases v with
    | int n =>
      simp only [ofValue?, Option.some.injEq] at hx
      subst hx
      exact n.narrow_val_le
    | text s => simp [ofValue?] at hx
    | flag b => simp [ofValue?] at hx
  | duration t =>
    cases v with
    | int n =>
      simp only [ofValue?, Option.some.injEq] at hx
      subst hx
      refine ⟨?_, n.narrow_val_le⟩
      rcases Whole.narrow_val_cases (t := t) n.val with hv | hv
      · rw [hv]
        exact Coercion.duration_nonneg hread
      · exact Int.le_of_eq hv.symm
    | text s => simp [ofValue?] at hx
    | flag b => simp [ofValue?] at hx

end FieldType

namespace Cells

variable {fields : List Field} {row : Wire.Sentence}

/-! ## What a row is read as -/

/-- A field takes in what comes back, or nothing. -/
theorem kept_of_readField {f : Field} {x : f.type.Carrier} (h : readField row f = .ok x) :
    f.type.Kept x := by
  unfold readField at h
  split at h
  · -- a field that is not on the wire
    simp only [Except.ok.injEq] at h
    exact h ▸ f.type.kept_zero
  · next d hd =>
    have hcoercion : d.coercion = f.type.coercion := by
      obtain ⟨wire, -, rfl⟩ := Option.map_eq_some_iff.1 hd
      rfl
    split at h
    · simp only [Except.ok.injEq] at h
      exact h ▸ f.type.kept_zero
    · next s hs =>
      split at h
      · simp at h
      · next v hv =>
        simp only [Except.ok.injEq] at h
        subst h
        rw [hcoercion] at hv
        cases hx : f.type.ofValue? v with
        | none => exact f.type.kept_zero
        | some x => exact FieldType.kept_of_decode hv hx

/-- A field without a name on the wire is never filled. -/
theorem eq_zero_of_readField {f : Field} {x : f.type.Carrier} (hw : f.wire? = none)
    (h : readField row f = .ok x) : x = f.type.zero := by
  have hd := Field.descriptor?_eq_none hw
  simp only [readField, hd, Except.ok.injEq] at h
  exact h.symm

/-- **A record that was read loses nothing on the wire.** -/
theorem carried_of_ofRow {r : Cells fields} (h : ofRow row fields = .ok r) : r.carried = r := by
  induction r with
  | nil => rfl
  | @cons f fields x rest ih =>
    obtain ⟨hx, hrest⟩ := ofRow_cons_iff.1 h
    cases hw : f.wire? with
    | none =>
      simp only [carried, hw, ih hrest]
      rw [eq_zero_of_readField hw hx]
    | some wire =>
      simp only [carried, hw, ih hrest]
      rw [FieldType.carried_of_kept (kept_of_readField hx)]

/-- **Some row describes a record exactly if the wire carries all of it.** -/
theorem exists_ofRow_iff (unambiguous : Unambiguous fields) {r : Cells fields} :
    (∃ row, ofRow row fields = .ok r) ↔ r.carried = r := by
  constructor
  · rintro ⟨row, h⟩
    exact carried_of_ofRow h
  · intro h
    have hback := ofRow_marshal_of_unambiguous unambiguous "" r
    rw [h] at hback
    exact ⟨_, hback⟩

end Cells

namespace Menu

/-- **Reading is stable under writing back.** Whatever row a record of a menu there is was read
from, the words of the command that sets it are read as the same record, in every field and
whatever the path. -/
theorem ofRow_marshal_of_ofRow {m : Menu} (known : m ∈ samples ++ catalog) {row : Wire.Sentence}
    {r : Record m} (read : Cells.ofRow row m.fields = .ok r) (path : String) :
    Cells.ofRow (Wire.Sentence.ofWords (r.marshal path).words.tail) m.fields = .ok r := by
  have hback := Cells.ofRow_marshal_of_unambiguous (unambiguous_of_known known) path r
  rwa [Cells.carried_of_ofRow read] at hback

/-- A row with names in other cases, numbers out of range, a word for yes, a clock that is longer
than a day, and more days than seconds can be counted. -/
def looseRow : Wire.Sentence :=
  ⟨[("NAME", "a=b\n"), ("i8-field", "+7"), ("A_U16", "70000"), ("u64-field", "-1"),
    ("Time_To_Live", "2d25:00:00"), ("age", "106751991167300d23:59:59"), ("enabled", "TRUE"),
    ("bytes", "1024")]⟩

/-- What the row describes. -/
def looseRecord : Record sample :=
  .cons "" (.cons "a=b\n" (.cons "" (.cons ⟨7, by decide, by decide⟩ (.cons .zero (.cons .zero
    (.cons .zero (.cons .zero (.cons .zero (.cons .zero (.cons .zero
      (.cons ⟨172800, by decide, by decide⟩ (.cons ⟨0x7FFFFFFFFFFFFFFF, by decide, by decide⟩
        (.cons true (.cons "" .nil))))))))))))))

/-- The record is written in other words than it was read from, and read again from these. -/
theorem ofRow_marshal_looseRecord :
    sample ∈ samples ++ catalog
      ∧ Cells.ofRow looseRow sample.fields = .ok looseRecord
      ∧ Cells.ofRow (Wire.Sentence.ofWords (looseRecord.marshal "/sample/set").words.tail)
          sample.fields = .ok looseRecord := by
  have hknown : sample ∈ samples ++ catalog := by decide
  have hread : Cells.ofRow looseRow sample.fields = .ok looseRecord := by
    decide +kernel
  exact ⟨hknown, hread, ofRow_marshal_of_ofRow hknown hread "/sample/set"⟩

end Menu

end RouterMenu
