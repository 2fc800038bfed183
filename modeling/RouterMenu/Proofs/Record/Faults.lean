import Mathlib.Data.List.Forall2
import RouterMenu.Menu.Catalog
import RouterMenu.Proofs.Record.Duration

/-!
# What can be wrong with a reply

Reading is permissive: a flag or a number that makes no sense is false or zero, and a field that a
row does not mention stays zero. So a row fails only on a count of days that is none, and of several
such fields the first in the order of the fields is blamed, once, by its name on the wire
(`Cells.ofRow_eq_error_iff`). A list of rows fails with the first row that fails, and is otherwise
read row by row; where one object is asked for, more rows than one are a failure before any of them
is looked at. Everything here holds of every list of fields (`Cells.faults`).
-/

namespace RouterMenu

/-! ## The first of a kind -/

/-- The element has the property, and none before it in the list has. -/
def IsFirst {α : Type} (p : α → Prop) (xs : List α) (x : α) : Prop :=
  ∃ before after, xs = before ++ x :: after ∧ p x ∧ ∀ y ∈ before, ¬ p y

section

variable {α : Type} {p : α → Prop} {x y : α} {xs : List α}

theorem IsFirst.holds (h : IsFirst p xs x) : p x := by
  obtain ⟨before, after, -, hx, -⟩ := h
  exact hx

theorem not_isFirst_nil : ¬ IsFirst p [] x := by
  rintro ⟨before, after, h, -⟩
  simp at h

theorem isFirst_cons_iff : IsFirst p (y :: xs) x ↔ x = y ∧ p y ∨ ¬ p y ∧ IsFirst p xs x := by
  constructor
  · rintro ⟨before, after, h, hx, hbefore⟩
    cases before with
    | nil =>
      cases h
      exact .inl ⟨rfl, hx⟩
    | cons z before =>
      cases h
      rw [List.forall_mem_cons] at hbefore
      exact .inr ⟨hbefore.1, before, after, rfl, hx, hbefore.2⟩
  · rintro (⟨rfl, hx⟩ | ⟨hy, before, after, rfl, hx, hbefore⟩)
    · exact ⟨[], xs, rfl, hx, by simp⟩
    · exact ⟨y :: before, after, rfl, hx, List.forall_mem_cons.2 ⟨hy, hbefore⟩⟩

/-- If some elements have a property, one of them is the first. -/
theorem exists_isFirst_iff : (∃ x, IsFirst p xs x) ↔ ∃ x ∈ xs, p x := by
  induction xs with
  | nil => simp [not_isFirst_nil]
  | cons y xs ih =>
    simp only [isFirst_cons_iff, exists_or, exists_and_left, ih, List.mem_cons]
    by_cases hy : p y
    · simp [hy]
    · simp [hy]

end

/-! ## Scalars and fields -/

/-- **Reading a scalar fails on a count of days**, and on nothing else. -/
theorem Coercion.decode_eq_error_iff {c : Coercion} {s : String} {e : DecodeError} :
    c.decode s = .error e ↔ c = .duration ∧ Duration.Miscounts s ∧ e = .dayCount s := by
  cases c with
  | text => simp [decode]
  | flag => simp [decode]
  | int => simp [decode]
  | duration =>
    rw [← Duration.decode_eq_error_iff]
    simp only [decode, true_and]
    cases Duration.decode s with
    | ok n => simp
    | error e' => simp

namespace Cells

variable {fields : List Field} {row : Wire.Sentence} {e : DecodeError}

/-- What the row says of the field, a duration, has something else than a count of days before its
first `d`. -/
def Damages (row : Wire.Sentence) (d : Descriptor) (text : String) : Prop :=
  d.coercion = .duration ∧ find? row d = some text ∧ Duration.Miscounts text

theorem readField_eq_error_iff {f : Field} :
    readField row f = .error e ↔ ∃ d, f.descriptor? = some d
      ∧ ∃ text, Damages row d text ∧ e = .field d.wire (.dayCount text) := by
  unfold readField Damages
  cases f.descriptor? with
  | none => simp
  | some d =>
    simp only [Option.some.injEq, exists_eq_left']
    cases find? row d with
    | none => simp
    | some s =>
      simp only [Option.some.injEq]
      constructor
      · intro h
        -- what is found is decoded, and only a duration can refuse it
        split at h
        · next source hsource =>
          cases h
          obtain ⟨hc, hs, rfl⟩ := Coercion.decode_eq_error_iff.1 hsource
          exact ⟨s, ⟨hc, rfl, hs⟩, rfl⟩
        · simp at h
      · rintro ⟨text, ⟨hc, rfl, hs⟩, rfl⟩
        simp only [Coercion.decode_eq_error_iff.2 ⟨hc, hs, rfl⟩]

/-! ## Rows -/

/-- The field is given such a text. -/
def Damaged (row : Wire.Sentence) (d : Descriptor) : Prop := ∃ text, Damages row d text

theorem ofRow_cons_eq_error_iff {f : Field} :
    ofRow row (f :: fields) = .error e
      ↔ readField row f = .error e
        ∨ (¬ ∃ e', readField row f = .error e') ∧ ofRow row fields = .error e := by
  rw [ofRow]
  cases readField row f with
  | error e' => simp
  | ok x => cases ofRow row fields <;> simp

/-- **For a row that cannot be read the first damaged field is blamed**, by its name on the wire. -/
theorem ofRow_eq_error_iff :
    ofRow row fields = .error e ↔ ∃ d text, IsFirst (Damaged row) (descriptors fields) d
      ∧ Damages row d text ∧ e = .field d.wire (.dayCount text) := by
  induction fields with
  | nil => simp [ofRow, descriptors, not_isFirst_nil]
  | cons f fields ih =>
    rw [ofRow_cons_eq_error_iff, ih]
    cases hd : f.descriptor? with
    | none =>
      rw [descriptors_cons_none hd]
      simp [readField_eq_error_iff, hd]
    | some d =>
      have hfails : (∃ e', readField row f = .error e') ↔ Damaged row d := by
        simp [readField_eq_error_iff, hd, Damaged]
      rw [hfails, readField_eq_error_iff, descriptors_cons_some hd]
      simp only [isFirst_cons_iff, hd, Option.some.injEq, exists_eq_left']
      by_cases hdamaged : Damaged row d
      · -- this field is the first, so the others are not looked at
        simp [hdamaged]
      · have hnone : ∀ text, ¬ Damages row d text := fun text h => hdamaged ⟨text, h⟩
        simp [hdamaged, hnone]

/-- A row that can be read has no damaged field, and the other way round. -/
theorem exists_ofRow_eq_error_iff :
    (∃ e, ofRow row fields = .error e) ↔ ∃ d ∈ descriptors fields, Damaged row d := by
  rw [← exists_isFirst_iff]
  constructor
  · rintro ⟨e, h⟩
    obtain ⟨d, -, hfirst, -, -⟩ := ofRow_eq_error_iff.1 h
    exact ⟨d, hfirst⟩
  · rintro ⟨d, hfirst⟩
    obtain ⟨text, htext⟩ := hfirst.holds
    exact ⟨_, ofRow_eq_error_iff.2 ⟨d, text, hfirst, htext, rfl⟩⟩

/-! ## Replies -/

theorem ofRows_cons_eq_error_iff {rows : List Wire.Sentence} :
    ofRows fields (row :: rows) = .error e
      ↔ ofRow row fields = .error e
        ∨ (¬ ∃ e', ofRow row fields = .error e') ∧ ofRows fields rows = .error e := by
  rw [ofRows]
  cases ofRow row fields with
  | error e' => simp
  | ok r => cases ofRows fields rows <;> simp

/-- **The first row that cannot be read is the failure of all.** -/
theorem ofRows_eq_error_iff {rows : List Wire.Sentence} :
    ofRows fields rows = .error e ↔ ∃ row,
      IsFirst (fun row => ∃ e, ofRow row fields = .error e) rows row
        ∧ ofRow row fields = .error e := by
  induction rows with
  | nil => simp [ofRows, not_isFirst_nil]
  | cons row rows ih =>
    rw [ofRows_cons_eq_error_iff, ih]
    simp only [isFirst_cons_iff]
    by_cases hrow : ∃ e, ofRow row fields = .error e
    · simp [hrow]
    · have hnone : ofRow row fields ≠ .error e := fun h => hrow ⟨e, h⟩
      simp [hrow, hnone]

/-- **All rows are read if each is**, one record for each. -/
theorem ofRows_eq_ok_iff {rows : List Wire.Sentence} {records : List (Cells fields)} :
    ofRows fields rows = .ok records
      ↔ List.Forall₂ (fun row r => ofRow row fields = .ok r) rows records := by
  induction rows generalizing records with
  | nil => cases records <;> simp [ofRows]
  | cons row rows ih =>
    rw [ofRows]
    cases hrow : ofRow row fields with
    | error e => cases records <;> simp [hrow]
    | ok r =>
      cases hrows : ofRows fields rows with
      | error e => cases records <;> simp [← ih, hrows]
      | ok rest => cases records <;> simp [← ih, hrow, hrows]

/-- **Where one object is asked for, several rows are ambiguous**, and nothing else is. -/
theorem ofReply_eq_ambiguous_iff {reply : Wire.Reply} {n : Nat} :
    ofReply reply fields = .error (.ambiguous n) ↔ reply.rows.length = n ∧ 1 < n := by
  unfold ofReply
  split
  · next hrows => simp [hrows]; omega
  · next row hrows =>
    -- an error of the one row is never that there are several
    have hnot : ofRow row fields ≠ .error (.ambiguous n) := by
      intro h
      obtain ⟨d, text, -, -, he⟩ := ofRow_eq_error_iff.1 h
      cases he
    simp only [hnot, hrows, List.length_singleton, false_iff]
    omega
  · next hnil hone =>
    have hlength : 1 < reply.rows.length := by
      match hrows : reply.rows with
      | [] => exact absurd hrows hnil
      | [row] => exact absurd hrows (hone row)
      | _ :: _ :: _ => simp
    simp only [Except.error.injEq, DecodeError.ambiguous.injEq]
    exact ⟨fun h => ⟨h, h ▸ hlength⟩, fun h => h.1⟩

/-- What can be wrong with rows that describe records of the given fields. -/
structure Faults (fields : List Field) : Prop where
  /-- A row cannot be read exactly if a field is damaged: a duration for which the row has a text
  with something else than a count of days before its first `d`. -/
  damaged (row : Wire.Sentence) :
    (∃ e, ofRow row fields = .error e) ↔ ∃ d ∈ descriptors fields, Damaged row d
  /-- Of the damaged fields the first is blamed, and the error holds its name and its text. -/
  blamed (row : Wire.Sentence) (e : DecodeError) :
    ofRow row fields = .error e ↔ ∃ d text, IsFirst (Damaged row) (descriptors fields) d
      ∧ Damages row d text ∧ e = .field d.wire (.dayCount text)
  /-- Of the rows that cannot be read the first decides. -/
  failed (rows : List Wire.Sentence) (e : DecodeError) :
    ofRows fields rows = .error e ↔ ∃ row,
      IsFirst (fun row => ∃ e, ofRow row fields = .error e) rows row
        ∧ ofRow row fields = .error e
  /-- If all can be read, there is one record for each, in their order. -/
  read (rows : List Wire.Sentence) (records : List (Cells fields)) :
    ofRows fields rows = .ok records
      ↔ List.Forall₂ (fun row r => ofRow row fields = .ok r) rows records
  /-- Where one object is asked for, several rows are refused, whatever they hold. -/
  ambiguous (reply : Wire.Reply) (n : Nat) :
    ofReply reply fields = .error (.ambiguous n) ↔ reply.rows.length = n ∧ 1 < n

/-- **Nothing but a wrong count of days makes a row unreadable**, whatever the fields are, and what
is reported is the first of what is wrong. -/
theorem faults (fields : List Field) : Faults fields where
  damaged _ := exists_ofRow_eq_error_iff
  blamed _ _ := ofRow_eq_error_iff
  failed _ _ := ofRows_eq_error_iff
  read _ _ := ofRows_eq_ok_iff
  ambiguous _ _ := ofReply_eq_ambiguous_iff

/-- The order of the fields counts, not that of the row. -/
example : ofRow ⟨[("age", "xd"), ("Time_To_Live", "-1d"), ("u8-field", "many")]⟩ Menu.sample.fields
    = .error (.field "ttl" (.dayCount "-1d")) := by
  decide +kernel

end Cells

end RouterMenu
