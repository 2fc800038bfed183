import Mathlib.Data.List.Forall2
import RouterMenu.Proofs.Record.Places
import RouterMenu.Render.Output

/-!
# A table hides nothing that is set

The columns of a table are chosen for all records at once, while its cells are filled in record by
record. What makes them fit is that both go by the places of fields: a place is a column if the key
is there or some record has something there that is not zero (`mem_tableColumns_iff`), the columns
stand in the order of their places, and every row has a cell for each of them (`IsCell`). A cell is
blank only if nothing was set, so a table says of every record all that is set on it.
-/

namespace RouterMenu

/-! ## Cells -/

/-- Only the empty text is written as no text. -/
theorem Value.encode_eq_empty_iff {v : Value} : v.encode = "" ↔ v = .text "" := by
  cases v with
  | text s => simp [encode]
  | flag b => cases b <;> simp [encode]
  | int n =>
    have hne : Text.ofInt n.val ≠ [] := by
      cases n.val with
      | ofNat k => exact Text.digitsOf_ne_nil [] k
      | negSucc k => exact List.cons_ne_nil _ _
    simp [encode, hne]

namespace Render

/-- What a cell says of a scalar: its text on the wire, and nothing of a zero that is no flag. -/
inductive Says : Value → String → Prop where
  | text {v : Value} (h : v.isFlag = true ∨ v.isZero = false) : Says v v.encode
  | blank {v : Value} (flag : v.isFlag = false) (zero : v.isZero = true) : Says v ""

theorem says_cellText (v : Value) : Says v (cellText v) := by
  unfold cellText
  split
  · next h => exact .text (by simpa using h)
  · next h =>
    have hparts : v.isFlag = false ∧ v.isZero = true := by simpa using h
    exact .blank hparts.1 hparts.2

/-- **A cell is blank exactly for a zero that is no flag.** -/
theorem Says.eq_empty_iff {v : Value} {cell : String} (h : Says v cell) :
    cell = "" ↔ v.isFlag = false ∧ v.isZero = true := by
  cases h with
  | text h =>
    refine ⟨fun hempty => ?_, fun ⟨hflag, hzero⟩ => ?_⟩
    · rw [Value.encode_eq_empty_iff] at hempty
      subst hempty
      exact ⟨rfl, rfl⟩
    · simp [hflag, hzero] at h
  | blank flag zero => exact iff_of_true rfl ⟨flag, zero⟩

/-! ## Columns -/

section

variable {m : Menu} {records : List (Record m)} {i : Nat}

/-- There is a column for the field in a place: it is the key, or it is set on some record. -/
def HasColumn (m : Menu) (records : List (Record m)) (i : Nat) (d : Descriptor) : Prop :=
  d.wire = m.key ∨ ∃ r ∈ records, ∃ v, r.get? i = some v ∧ v.isZero = false

/-- **Every field that is set on some record has a column**, and the key has one in any case. -/
theorem mem_tableColumns_iff (unambiguous : Unambiguous m.fields) :
    i ∈ tableColumns m records ↔
      ∃ d, (descriptors m.fields)[i]? = some d ∧ HasColumn m records i d := by
  -- names are unambiguous, so the place of the key is the place of its descriptor
  have hkey : (m.field? m.key).map Prod.fst = some i ↔
      ∃ d, (descriptors m.fields)[i]? = some d ∧ d.wire = m.key := by
    rw [Option.map_eq_some_iff]
    constructor
    · rintro ⟨⟨_, d⟩, hfield, rfl⟩
      exact ⟨d, (lookup?_eq_some_iff unambiguous).1 hfield⟩
    · rintro ⟨d, hd⟩
      exact ⟨(i, d), (lookup?_eq_some_iff unambiguous).2 hd, rfl⟩
  simp only [tableColumns, List.mem_filter, List.mem_range, Bool.or_eq_true, beq_iff_eq,
    List.any_eq_true, eq_comm (a := some i), hkey]
  constructor
  · rintro ⟨hlt, ⟨d, hd, hwire⟩ | ⟨r, hr, hset⟩⟩
    · exact ⟨d, hd, .inl hwire⟩
    · split at hset
      · next v hv =>
        exact ⟨_, List.getElem?_eq_getElem hlt, .inr ⟨r, hr, v, hv, by simpa using hset⟩⟩
      · cases hset
  · rintro ⟨d, hd, hcolumn⟩
    refine ⟨(List.getElem?_eq_some_iff.1 hd).1, ?_⟩
    rcases hcolumn with hwire | ⟨r, hr, v, hv, hset⟩
    · exact .inl ⟨d, hd, hwire⟩
    · exact .inr ⟨r, hr, by simp only [hv, hset, Bool.not_false]⟩

end

/-! ## Rows -/

/-- The head of a column is the name of its field on the wire. -/
def IsHead (m : Menu) (i : Nat) (name : String) : Prop :=
  ∃ d, (descriptors m.fields)[i]? = some d ∧ name = d.wire

/-- The cell in a column says what the record holds there, and is blank exactly for a zero that is
no flag. -/
def IsCell {m : Menu} (r : Record m) (i : Nat) (cell : String) : Prop :=
  ∃ v, r.get? i = some v ∧ Says v cell ∧ (cell = "" ↔ v.isFlag = false ∧ v.isZero = true)

variable {m : Menu}

/-- **A table hides nothing that is set.** It has the row of the names and then one row for each
record, in order, all of the same width; a column for each field that is the key or is set on some
record, and no other, in the order of the fields; and in every cell what the record of the row holds
in the field of the column. -/
theorem tableRows_complete (known : m ∈ Menu.samples ++ Menu.catalog) (records : List (Record m)) :
    list .table m records = grid (tableRows m records)
      ∧ ∃ columns : List Nat, columns.Pairwise (· < ·)
        ∧ (∀ i, i ∈ columns ↔
          ∃ d, (descriptors m.fields)[i]? = some d ∧ HasColumn m records i d)
        ∧ (∀ row ∈ tableRows m records, row.length = columns.length)
        ∧ ∃ head rows, tableRows m records = head :: rows
          ∧ List.Forall₂ (IsHead m) columns head
          ∧ List.Forall₂ (fun r row => List.Forall₂ (IsCell r) columns row) records rows := by
  have unambiguous := unambiguous_of_known known
  have hcolumn {i : Nat} (h : i ∈ tableColumns m records) :
      ∃ d, (descriptors m.fields)[i]? = some d := by
    obtain ⟨d, hd, -⟩ := (mem_tableColumns_iff unambiguous).1 h
    exact ⟨d, hd⟩
  refine ⟨rfl, tableColumns m records, List.pairwise_lt_range.filter _,
    fun i => mem_tableColumns_iff unambiguous, fun row hrow => ?_, _, _, rfl, ?_, ?_⟩
  · rcases List.mem_cons.1 hrow with rfl | hrow
    · rw [List.length_map]
    · obtain ⟨r, -, rfl⟩ := List.mem_map.1 hrow
      rw [List.length_map]
  · rw [List.forall₂_map_right_iff, List.forall₂_same]
    intro i hi
    obtain ⟨d, hd⟩ := hcolumn hi
    exact ⟨d, hd, by rw [hd]; rfl⟩
  · rw [List.forall₂_map_right_iff, List.forall₂_same]
    intro r _
    rw [List.forall₂_map_right_iff, List.forall₂_same]
    intro i hi
    obtain ⟨d, hd⟩ := hcolumn hi
    obtain ⟨v, hv, -⟩ := r.exists_get?_of_descriptor hd
    rw [hv]
    exact ⟨v, hv, says_cellText v, (says_cellText v).eq_empty_iff⟩

/-- A record of the sample menu with one number and nothing else. -/
def lateRecord : Record Menu.sample := (Cells.zero _).set 4 (.int ⟨-7, by decide, by decide⟩)

/-- What only the last record sets has a column, and what none of them sets has none. -/
theorem tableRows_complete_lateRecord :
    Menu.sample ∈ Menu.samples ++ Menu.catalog
      ∧ ∃ columns : List Nat, 4 ∈ columns ∧ 5 ∉ columns
        ∧ ∀ row ∈ tableRows Menu.sample [Cells.zero _, lateRecord],
          row.length = columns.length := by
  have hknown : Menu.sample ∈ Menu.samples ++ Menu.catalog := by decide
  obtain ⟨-, columns, -, hcolumns, hwidth, -⟩ :=
    tableRows_complete hknown [Cells.zero _, lateRecord]
  refine ⟨hknown, columns, (hcolumns 4).2 ⟨_, rfl, .inr ⟨lateRecord, by simp, _, rfl, rfl⟩⟩, ?_,
    hwidth⟩
  rw [hcolumns 5]
  rintro ⟨d, hd, hkey | ⟨r, hr, v, hv, hset⟩⟩
  · cases hd
    exact absurd hkey (by decide +kernel)
  · rcases List.mem_pair.1 hr with rfl | rfl
    all_goals
      cases hv
      exact absurd hset (by decide +kernel)

example : tableRows Menu.sample [Cells.zero _, lateRecord]
    = [["name", "i16-field"], ["", ""], ["", "-7"]] := by
  decide +kernel

end Render

end RouterMenu
