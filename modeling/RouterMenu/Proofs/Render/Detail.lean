import Mathlib.Data.List.Forall2
import RouterMenu.Proofs.Record.RoundTrip
import RouterMenu.Proofs.Render.Terminal
import RouterMenu.Render.Output

/-!
# What a record shows is what would be sent

A single record is shown as a list of lines, and a line is shown by what kind of scalar a field
holds, while it is sent by how the field is read. Both come to the same (`detailEntries_eq`), so the
lines are those of the attributes of the command that sets the record, in their order
(`ListsAttributes`). The names stand right-aligned in a column as wide as the longest of them, and
if colors are asked for there is an escape sequence on either side of the column and no other
difference.

Of escape sequences a terminal shows nothing (`visible`). It comes out of any of them at the end of
the line, so it shows the same with colors and without, whatever the values hold, and the text
without colors as it is if no value holds an escape character.
-/

namespace RouterMenu.Render

/-! ## Two ways to choose the fields -/

/-- A scalar is a flag if the field it is in is read as one, and only then. -/
theorem isFlag_of_mem_entries {fields : List Field} {r : Cells fields}
    {entry : Descriptor × Value} (h : entry ∈ r.entries) :
    entry.2.isFlag = (entry.1.coercion == .flag) := by
  obtain ⟨t, x, hcoercion, hv⟩ := Cells.exists_contents_of_mem h
  rw [hcoercion, hv]
  cases t <;> rfl

/-- **The fields that are shown are those that are sent**, with the same texts. -/
theorem detailEntries_eq (m : Menu) (r : Record m) : detailEntries m r = r.pairs := by
  rw [detailEntries, Cells.pairs, ← List.filterMap_eq_map, List.filterMap_filter]
  -- field by field the two tests agree
  refine List.filterMap_congr fun entry he => ?_
  rw [Cells.isSet, ← isFlag_of_mem_entries he]
  rfl

/-! ## Names in a column -/

/-- The width of the longest name. -/
structure Longest (names : List String) (width : Nat) : Prop where
  le : ∀ name ∈ names, name.length ≤ width
  reached : names ≠ [] → ∃ name ∈ names, name.length = width

/-- The name at the right end of a column of the given width, behind blanks. -/
def RightAligned (width : Nat) (name label : String) : Prop :=
  label.length = width ∧ ∃ blanks, label.toList = List.replicate blanks ' ' ++ name.toList

theorem longest_foldl (names : List String) :
    Longest names ((names.map String.length).foldl max 0) := by
  cases hmax : (names.map String.length).max? with
  | none =>
    have hnil : names = [] := by simpa using hmax
    subst hnil
    exact ⟨by simp, by simp⟩
  | some width =>
    obtain ⟨hmem, hle⟩ := List.max?_eq_some_iff.1 hmax
    have hfold : (names.map String.length).foldl max 0 = width := by
      rw [List.foldl_max, hmax, Option.getD_some, Nat.zero_max]
    rw [hfold]
    exact ⟨fun name hname => hle _ (List.mem_map_of_mem hname), fun _ => List.mem_map.1 hmem⟩

/-- The name takes one byte for each character, and no character opens an escape sequence. -/
structure IsPlain (name : String) : Prop where
  narrow : name.utf8ByteSize = name.length
  silent : '\x1b' ∉ name.toList

instance (name : String) : Decidable (IsPlain name) :=
  decidable_of_iff (name.utf8ByteSize = name.length ∧ '\x1b' ∉ name.toList)
    ⟨fun ⟨h1, h2⟩ => ⟨h1, h2⟩, fun ⟨h1, h2⟩ => ⟨h1, h2⟩⟩

/-- **The names on the wire are plain** in every menu there is. -/
theorem isPlain_of_known {m : Menu} (known : m ∈ Menu.samples ++ Menu.catalog) :
    ∀ d ∈ descriptors m.fields, IsPlain d.wire := by
  have hall : ∀ m ∈ Menu.samples ++ Menu.catalog, ∀ d ∈ descriptors m.fields, IsPlain d.wire := by
    decide +kernel
  exact hall m known

/-- The width of the column of names. -/
def nameWidth (attributes : List (String × String)) : Nat :=
  attributes.foldl (fun w pair => max w pair.1.utf8ByteSize) 0

theorem longest_nameWidth {attributes : List (String × String)}
    (plain : ∀ pair ∈ attributes, IsPlain pair.1) :
    Longest (attributes.map Prod.fst) (nameWidth attributes) := by
  -- the width is counted in bytes, of which every character of a plain name has one
  have hsizes : attributes.map (fun pair => pair.1.utf8ByteSize)
      = (attributes.map Prod.fst).map String.length := by
    rw [List.map_map]
    exact List.map_congr_left fun pair hp => (plain pair hp).narrow
  have hwidth : nameWidth attributes
      = ((attributes.map Prod.fst).map String.length).foldl max 0 := by
    rw [nameWidth, ← hsizes, List.foldl_map]
  rw [hwidth]
  exact longest_foldl _

theorem rightAligned_label {width : Nat} {name : String} (plain : IsPlain name)
    (fits : name.length ≤ width) : RightAligned width name (label false width name) := by
  have hlabel : label false width name
      = String.ofList (List.replicate (width - name.length) ' ') ++ name := by
    simp [label, plain.narrow]
  rw [hlabel]
  refine ⟨?_, width - name.length, by simp⟩
  rw [String.length_append, String.length_ofList, List.length_replicate]
  omega

/-! ## Lines -/

/-- The line of an attribute: its name in the column, between `start` and `stop`, two blanks, and
its value. -/
def IsLine (start stop : String) (width : Nat) (pair : String × String) (line : String) : Prop :=
  ∃ label, RightAligned width pair.1 label ∧ line = start ++ label ++ stop ++ "  " ++ pair.2

/-- The text has a line for each of the attributes, in their order, and nothing else. -/
def ListsAttributes (start stop : String) (attributes : List (String × String)) (text : String) :
    Prop :=
  ∃ width lines, Longest (attributes.map Prod.fst) width
    ∧ List.Forall₂ (IsLine start stop width) attributes lines ∧ text = "\n".intercalate lines

/-- What stands before a colored label. -/
def colorStart (color : Bool) : String := if color then "\x1b[36m" else ""

/-- What stands behind a colored label. -/
def colorStop (color : Bool) : String := if color then "\x1b[39m" else ""

theorem label_eq (color : Bool) (width : Nat) (name : String) :
    label color width name = colorStart color ++ label false width name ++ colorStop color := by
  cases color <;> simp [label, colorStart, colorStop]

/-- The line of an attribute in a detail view. -/
def detailLine (color : Bool) (width : Nat) (pair : String × String) : String :=
  label color width pair.1 ++ "  " ++ pair.2

theorem detail_eq (m : Menu) (r : Record m) (color : Bool) :
    detail m r color = "\n".intercalate (r.pairs.map (detailLine color (nameWidth r.pairs))) := by
  rw [detail, detailEntries_eq]
  rfl

theorem listsAttributes_detail {m : Menu} (r : Record m)
    (plain : ∀ pair ∈ r.pairs, IsPlain pair.1) (color : Bool) :
    ListsAttributes (colorStart color) (colorStop color) r.pairs (detail m r color) := by
  have hlongest := longest_nameWidth plain
  refine ⟨nameWidth r.pairs, _, hlongest, ?_, detail_eq m r color⟩
  rw [List.forall₂_map_right_iff, List.forall₂_same]
  intro pair ha
  have hfits := hlongest.le pair.1 (List.mem_map_of_mem ha)
  exact ⟨_, rightAligned_label (plain pair ha) hfits, by rw [detailLine, label_eq]⟩

/-! ## Colors -/

theorem isEscape_colorStart : IsEscape (colorStart true) :=
  ⟨['3', '6'], 'm', rfl, List.all_eq_true.1 rfl, rfl⟩

theorem isEscape_colorStop : IsEscape (colorStop true) :=
  ⟨['3', '9'], 'm', rfl, List.all_eq_true.1 rfl, rfl⟩

theorem visible_colorStart (color : Bool) (rest : String) :
    visible (colorStart color ++ rest) = visible rest := by
  cases color with
  | false => simp [colorStart]
  | true => exact visible_escape isEscape_colorStart rest

theorem visible_colorStop (color : Bool) (rest : String) :
    visible (colorStop color ++ rest) = visible rest := by
  cases color with
  | false => simp [colorStop]
  | true => exact visible_escape isEscape_colorStop rest

/-- **Colors are not shown**, only the label and what is shown of the value. -/
theorem visible_detailLine {pair : String × String} (plain : IsPlain pair.1) (color : Bool)
    (width : Nat) : visible (detailLine color width pair)
      = label false width pair.1 ++ "  " ++ visible pair.2 := by
  have hlabel : '\x1b' ∉ (label false width pair.1).toList := by
    simp [label, plain.silent]
  have hblanks : '\x1b' ∉ ("  " : String).toList := by decide
  rw [detailLine, label_eq, String.append_assoc, String.append_assoc, String.append_assoc,
    visible_colorStart, visible_append hlabel, visible_colorStop, visible_append hblanks,
    String.append_assoc]

/-- What is shown of a record, with colors and without. -/
theorem visible_detail {m : Menu} (r : Record m) (plain : ∀ pair ∈ r.pairs, IsPlain pair.1)
    (color : Bool) : visible (detail m r color) = "\n".intercalate (r.pairs.map fun pair =>
      label false (nameWidth r.pairs) pair.1 ++ "  " ++ visible pair.2) := by
  have hlines : (r.pairs.map (detailLine color (nameWidth r.pairs))).map visible
      = r.pairs.map fun pair =>
        label false (nameWidth r.pairs) pair.1 ++ "  " ++ visible pair.2 := by
    rw [List.map_map]
    exact List.map_congr_left fun pair hp => visible_detailLine (plain pair hp) color _
  rw [detail_eq, visible_intercalate, hlines]

/-- **What a record shows is what would be sent.** For every menu there is and every record, the
detail view without colors has a line for each attribute of the command that sets the record, in the
order of the command: the name right-aligned in a column as wide as the longest one, two blanks, and
the value as it is sent. With colors there is an escape sequence on either side of each label, and
nothing else is different: without the escape sequences it is the same text. -/
theorem detail_shows_sent {m : Menu} (known : m ∈ Menu.samples ++ Menu.catalog) (path : String)
    (r : Record m) :
    ∃ attributes : List (String × String),
      r.marshal path = ⟨path, attributes.map fun pair => .attr pair.1 pair.2⟩
        ∧ ListsAttributes "" "" attributes (one .table m r false)
        ∧ (∃ start stop, IsEscape start ∧ IsEscape stop
          ∧ ListsAttributes start stop attributes (one .table m r true))
        ∧ visible (one .table m r true) = visible (one .table m r false)
        ∧ ((∀ pair ∈ attributes, '\x1b' ∉ pair.2.toList) →
          visible (one .table m r true) = one .table m r false) := by
  -- whatever is written goes by the name of a field
  have hplain : ∀ pair ∈ r.pairs, IsPlain pair.1 := by
    intro pair hp
    obtain ⟨d, hd, hwire⟩ := Cells.exists_wire_of_mem_pairs hp
    rw [hwire]
    exact isPlain_of_known known d hd
  refine ⟨r.pairs, r.marshal_eq path, listsAttributes_detail r hplain false,
    ⟨_, _, isEscape_colorStart, isEscape_colorStop, listsAttributes_detail r hplain true⟩, ?_,
    fun silent => ?_⟩
  · exact (visible_detail r hplain true).trans (visible_detail r hplain false).symm
  · have hlines : (r.pairs.map fun pair =>
          label false (nameWidth r.pairs) pair.1 ++ "  " ++ visible pair.2)
        = r.pairs.map (detailLine false (nameWidth r.pairs)) :=
      List.map_congr_left fun pair hp => by rw [visible_of_not_mem (silent pair hp), detailLine]
    rw [one, visible_detail r hplain true, hlines, one, detail_eq]

/-- A record of the sample menu with a name of two lines and a duration. -/
def shownRecord : Record Menu.sample :=
  ((Cells.zero _).set 1 (.text "core\n=a")).set 11 (.int ⟨90, by decide, by decide⟩)

/-- What the name holds is no escape sequence, so the colors are all there is to take away. -/
theorem detail_shows_sent_shownRecord :
    Menu.sample ∈ Menu.samples ++ Menu.catalog
      ∧ visible (one .table Menu.sample shownRecord true)
        = one .table Menu.sample shownRecord false := by
  have hknown : Menu.sample ∈ Menu.samples ++ Menu.catalog := by decide
  obtain ⟨attributes, hsent, -, -, -, hvisible⟩ :=
    detail_shows_sent hknown "/sample/set" shownRecord
  refine ⟨hknown, hvisible fun pair hp => ?_⟩
  have hsilent : ∀ word ∈ (shownRecord.marshal "/sample/set").words, '\x1b' ∉ word.toList := by
    decide +kernel
  rw [hsent] at hsilent
  have hword := hsilent (Wire.Clause.attr pair.1 pair.2).word
    (List.mem_cons_of_mem _ (List.mem_map_of_mem (List.mem_map_of_mem hp)))
  simp only [Wire.Clause.word, String.toList_append, List.mem_append, not_or] at hword
  exact hword.2

example : one .table Menu.sample shownRecord false
    = "   name  core\n=a\n    ttl  90\nenabled  no" := by
  decide +kernel

end RouterMenu.Render
