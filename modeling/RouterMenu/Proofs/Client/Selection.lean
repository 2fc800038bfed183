import Mathlib.Data.List.Nodup
import RouterMenu.Client.Operations
import RouterMenu.Proofs.Record.RoundTrip

/-!
# A change is about one object

The command that changes an object has to say which one: by its id, or else by its name in
`numbers`. Which of the two is decided by looking for a word that begins like an id, among words
that hold any text. No other word begins so (`namesId_attributeWord`), as the name of an attribute
ends at the first equals sign behind it, and the fields of a record have distinct names on the wire,
none of which is `numbers`. So a command that changes an object has the words of the record and one
selector among or behind them (`setCommand_eq`), never two and never none.
-/

namespace RouterMenu

namespace Cells

variable {fields : List Field} {r : Cells fields}

/-! ## Fields by their names on the wire -/

/-- What is read into a field as text is text. -/
theorem exists_text_of_mem {entry : Descriptor × Value} (h : entry ∈ r.entries)
    (text : entry.1.coercion = .text) : ∃ s, entry.2 = .text s := by
  obtain ⟨t, x, hcoercion, hv⟩ := exists_contents_of_mem h
  rw [hcoercion] at text
  cases t with
  | text => exact ⟨x, hv⟩
  | flag => simp [FieldType.coercion] at text
  | int t => simp [FieldType.coercion] at text
  | duration t => simp [FieldType.coercion] at text

variable (unambiguous : Unambiguous fields)

include unambiguous

/-- One field has a given name on the wire. -/
theorem filter_entries {entry : Descriptor × Value} (h : entry ∈ r.entries) :
    r.entries.filter (fun other => other.1.wire == entry.1.wire) = [entry] := by
  -- entries with one name are one entry, and no entry is listed twice
  have hnodup : r.entries.Nodup :=
    (pairwise_entries unambiguous).imp fun hapart he => hapart.wire_ne (congrArg (·.1.wire) he)
  have hsame : ∀ other ∈ r.entries, (other.1.wire == entry.1.wire) = (other == entry) := by
    intro other ho
    by_cases he : other = entry
    · simp [he]
    · simp [(apart_of_ne unambiguous ho h he).wire_ne, he]
  rw [List.filter_congr hsame, List.filter_beq, List.count_eq_one_of_mem hnodup h]
  rfl

/-- **A record is written with one word for a field that is set**, and with none for one that is
not. -/
theorem filter_pairs {entry : Descriptor × Value} (h : entry ∈ r.entries) :
    r.pairs.filter (fun pair => pair.1 == entry.1.wire)
      = if isSet entry then [(entry.1.wire, entry.2.encode)] else [] := by
  have hswap : (r.entries.filter isSet).filter (fun other => other.1.wire == entry.1.wire)
      = [entry].filter isSet := by
    rw [List.filter_comm, filter_entries unambiguous h]
  rw [pairs, List.filter_map]
  simp only [Function.comp_def]
  rw [hswap]
  cases hset : isSet entry <;> simp [hset]

/-- The text of a name on the wire is what the field of that name holds. -/
theorem mem_entries_textOf {d : Descriptor} (h : d ∈ descriptors fields)
    (text : d.coercion = .text) : (d, Value.text (r.textOf d.wire)) ∈ r.entries := by
  rw [← r.map_fst_entries] at h
  obtain ⟨⟨d', v⟩, hmem, rfl⟩ := List.mem_map.1 h
  obtain ⟨s, rfl⟩ := exists_text_of_mem hmem text
  have hfind : r.entries.find? (fun other => other.1.wire == d'.wire) = some (d', .text s) := by
    rw [← List.head?_filter, filter_entries unambiguous hmem]
    rfl
  rw [textOf, hfind]
  exact hmem

/-- A field of text is written with its text, unless it is empty. -/
theorem filter_pairs_text {d : Descriptor} (h : d ∈ descriptors fields)
    (text : d.coercion = .text) :
    r.pairs.filter (fun pair => pair.1 == d.wire)
      = if r.textOf d.wire = "" then [] else [(d.wire, r.textOf d.wire)] := by
  rw [filter_pairs unambiguous (mem_entries_textOf unambiguous h text)]
  by_cases hs : r.textOf d.wire = "" <;> simp [isSet, text, Value.isZero, Value.encode, hs]

end Cells

namespace Menu

variable {m : Menu}

/-! ## Menus the objects of which can be selected -/

/-- An object is selected by an id of its own or by `numbers`, which is the name of no field. -/
structure Addressable (m : Menu) : Prop where
  unambiguous : Unambiguous m.fields
  identified : ∃ d ∈ descriptors m.fields, d.wire = idWire ∧ d.coercion = .text
  free : ∀ d ∈ descriptors m.fields, d.wire ≠ "numbers"
  /-- A path is no attribute. -/
  rooted : m.path.toList.head? = some '/'

/-- **The objects of every menu can be selected.** -/
theorem addressable_of_known (known : m ∈ samples ++ catalog) : m.Addressable := by
  have hall : ∀ m ∈ samples ++ catalog,
      (∃ d ∈ descriptors m.fields, d.wire = idWire ∧ d.coercion = .text)
        ∧ (∀ d ∈ descriptors m.fields, d.wire ≠ "numbers")
        ∧ m.path.toList.head? = some '/' := by
    decide +kernel
  obtain ⟨hid, hfree, hpath⟩ := hall m known
  exact ⟨unambiguous_of_known known, hid, hfree, hpath⟩

/-- The path of a command begins with a slash. -/
theorem Addressable.exists_verb (addressable : m.Addressable) (verb : String) :
    ∃ rest, (m.verb verb).toList = '/' :: rest := by
  obtain ⟨rest, hrest⟩ := List.head?_eq_some_iff.1 addressable.rooted
  exact ⟨rest ++ ('/' :: verb.toList), by simp [Menu.verb, hrest]⟩

/-- A record has its id among what it is written as, if it has one. -/
theorem Addressable.filter_id (addressable : m.Addressable) (r : Record m) :
    r.pairs.filter (fun pair => pair.1 == idWire)
      = if r.textOf idWire = "" then [] else [(idWire, r.textOf idWire)] := by
  obtain ⟨d, hd, hwire, htext⟩ := addressable.identified
  rw [← hwire]
  exact Cells.filter_pairs_text addressable.unambiguous hd htext

/-! ## Words that begin like an id -/

/-- **A word that begins like an id is the word of the id**, whatever the others hold. -/
theorem namesId_attributeWord {pair : String × String} (plain : '=' ∉ pair.1.toList) :
    namesId (Wire.attributeWord pair) = (pair.1 == idWire) := by
  rw [Bool.eq_iff_iff, namesId, List.isPrefixOf_iff_prefix, beq_iff_eq]
  constructor
  · rintro ⟨rest, hrest⟩
    -- the word is also that of an id with the rest as its value
    have hword : Wire.attributeWord (idWire, String.ofList rest) = Wire.attributeWord pair := by
      rw [← String.toList_inj, ← hrest]
      simp [Wire.attributeWord, Wire.Clause.word, idStart, idWire]
    have hequals : '=' ∉ idWire.toList := by decide
    have hid : Wire.Sentence.attribute? (Wire.attributeWord (idWire, String.ofList rest))
        = some (idWire, String.ofList rest) := Wire.Sentence.attribute?_attributeWord hequals
    rw [hword, Wire.Sentence.attribute?_attributeWord plain, Option.some.injEq] at hid
    exact congrArg Prod.fst hid
  · intro hid
    exact ⟨pair.2.toList, by simp [Wire.attributeWord, Wire.Clause.word, hid, idStart, idWire]⟩

theorem namesId_eq_false {word : String} {rest : List Char} (h : word.toList = '/' :: rest) :
    namesId word = false := by
  rw [namesId, h]
  rfl

/-! ## The command that changes an object -/

/-- What selects an object known by its name, if its id is not at hand. -/
def selector (m : Menu) (r : Record m) : List (String × String) :=
  if m.key ≠ idWire ∧ r.textOf idWire = "" then [("numbers", m.keyOf r)] else []

/-- A record has a word that begins like an id if it has an id. -/
theorem Addressable.any_namesId (addressable : m.Addressable) (r : Record m) (verb : String) :
    (r.marshal (m.verb verb)).words.any namesId = true ↔ r.textOf idWire ≠ "" := by
  obtain ⟨rest, hrest⟩ := addressable.exists_verb verb
  have hplain : ∀ pair ∈ r.pairs, namesId (Wire.attributeWord pair) = (pair.1 == idWire) :=
    fun pair hp => namesId_attributeWord (Cells.plain_pairs addressable.unambiguous hp)
  have hnone : (r.marshal (m.verb verb)).words.any namesId = false
      ↔ r.pairs.filter (fun pair => pair.1 == idWire) = [] := by
    rw [Cells.words_marshal, List.any_cons, namesId_eq_false hrest, Bool.false_or, List.any_map,
      List.any_eq_false, List.filter_eq_nil_iff]
    exact forall₂_congr fun pair hp => by rw [Function.comp_apply, hplain pair hp]
  rw [← Bool.not_eq_false, hnone, addressable.filter_id]
  split <;> simp_all

/-- **A change is the words of the record and what else it takes to select the object.** -/
theorem Addressable.setCommand_eq (addressable : m.Addressable) (r : Record m) :
    m.setCommand r
      = ⟨m.verb "set", (r.pairs ++ m.selector r).map fun pair => .attr pair.1 pair.2⟩ := by
  have hmarshal := r.marshal_eq (m.verb "set")
  -- the test on the words of the record comes to a test of one field
  have hid := addressable.any_namesId r "set"
  by_cases hselect : m.key ≠ idWire ∧ r.textOf idWire = ""
  · have hmissing : ¬ (r.marshal (m.verb "set")).words.any namesId = true :=
      fun h => hid.1 h hselect.2
    rw [setCommand, if_pos ⟨hselect.1, hmissing⟩, hmarshal, selector, if_pos hselect]
    simp [Wire.Command.numbers, Wire.Command.attr]
  · have hnone : ¬ (m.key ≠ idWire ∧ ¬ (r.marshal (m.verb "set")).words.any namesId = true) := by
      rintro ⟨hkey, hmissing⟩
      exact hselect ⟨hkey, by_contra fun h => hmissing (hid.2 h)⟩
    rw [setCommand, if_neg hnone, hmarshal, selector, if_neg hselect, List.append_nil]

theorem Addressable.not_mem_numbers (addressable : m.Addressable) (r : Record m) :
    "numbers" ∉ r.pairs.map Prod.fst := by
  intro h
  obtain ⟨pair, hp, hname⟩ := List.mem_map.1 h
  obtain ⟨d, hd, hwire⟩ := Cells.exists_wire_of_mem_pairs hp
  exact addressable.free d hd (hwire ▸ hname)

/-- **No name is set twice by a change.** -/
theorem Addressable.nodup_assignments (addressable : m.Addressable) (r : Record m) :
    ((r.pairs ++ m.selector r).map Prod.fst).Nodup := by
  have hpairs : (r.pairs.map Prod.fst).Nodup := Cells.nodup_pairs addressable.unambiguous
  unfold selector
  split
  · rw [List.map_append, List.map_singleton, List.nodup_append]
    refine ⟨hpairs, List.nodup_singleton _, ?_⟩
    rintro name hname _ hnumbers rfl
    rw [List.mem_singleton.1 hnumbers] at hname
    exact addressable.not_mem_numbers r hname
  · rwa [List.append_nil]

theorem Addressable.plain_assignments (addressable : m.Addressable) (r : Record m) :
    ∀ pair ∈ r.pairs ++ m.selector r, '=' ∉ pair.1.toList := by
  intro pair hp
  rcases List.mem_append.1 hp with hp | hp
  · exact Cells.plain_pairs addressable.unambiguous hp
  · unfold selector at hp
    split at hp
    · rw [List.mem_singleton.1 hp]
      have hnumbers : '=' ∉ "numbers".toList := by decide
      exact hnumbers
    · simp at hp

/-- Whether a word selects objects: it is an attribute that names their id, or `numbers`. -/
def selects (word : String) : Bool :=
  match Wire.Sentence.attribute? word with
  | some (name, _) => name == idWire || name == "numbers"
  | none => false

/-- The words of attributes that select objects are those with the name of the id, or `numbers`. -/
theorem filter_selects {pairs : List (String × String)}
    (plain : ∀ pair ∈ pairs, '=' ∉ pair.1.toList) :
    (pairs.map Wire.attributeWord).filter selects
      = (pairs.filter fun pair => pair.1 == idWire || pair.1 == "numbers").map
          Wire.attributeWord := by
  rw [List.filter_map]
  refine congrArg _ (List.filter_congr fun pair hp => ?_)
  rw [Function.comp_apply, selects, Wire.Sentence.attribute?_attributeWord (plain pair hp)]

/-- The words of a change, the path first. -/
theorem Addressable.words_setCommand (addressable : m.Addressable) (r : Record m) :
    (m.setCommand r).words
      = m.verb "set" :: (r.pairs ++ m.selector r).map Wire.attributeWord := by
  rw [addressable.setCommand_eq, Wire.Command.words, List.map_map]
  rfl

/-- A record with a key and without an id is known by its name. -/
theorem key_ne_idWire {r : Record m} (keyed : m.keyOf r ≠ "") (missing : r.textOf idWire = "") :
    m.key ≠ idWire :=
  fun he => keyed (by rw [keyOf, he, missing])

/-- **A change selects one object**, by its id if it has one, and by its key otherwise. -/
theorem Addressable.filter_selects_setCommand (addressable : m.Addressable) {r : Record m}
    (keyed : m.keyOf r ≠ "") :
    (m.setCommand r).words.filter selects
      = [if r.textOf idWire = "" then "=numbers=" ++ m.keyOf r
          else "=.id=" ++ r.textOf idWire] := by
  obtain ⟨rest, hrest⟩ := addressable.exists_verb "set"
  have hpath : selects (m.verb "set") = false := by
    simp [selects, Wire.Sentence.attribute?, hrest]
  -- among the words of the record `numbers` is not to be found, and the id at most once
  have hrecord : r.pairs.filter (fun pair => pair.1 == idWire || pair.1 == "numbers")
      = if r.textOf idWire = "" then [] else [(idWire, r.textOf idWire)] := by
    rw [← addressable.filter_id]
    refine List.filter_congr fun pair hp => ?_
    have hne : pair.1 ≠ "numbers" := fun he =>
      addressable.not_mem_numbers r (he ▸ List.mem_map_of_mem hp)
    simp [hne]
  rw [addressable.words_setCommand, List.filter_cons, hpath,
    filter_selects (addressable.plain_assignments r), List.filter_append, hrecord]
  by_cases hid : r.textOf idWire = ""
  · have hnumbers : m.selector r = [("numbers", m.keyOf r)] :=
      if_pos ⟨key_ne_idWire keyed hid, hid⟩
    rw [hnumbers, if_pos hid, if_pos hid]
    rfl
  · have hnone : m.selector r = [] := if_neg fun h => hid h.2
    rw [hnone, if_neg hid, if_neg hid]
    rfl

/-- **A change addresses exactly one object.** For every menu there is and every record with a key,
the command that `update` sends has exactly one word that selects objects: the id of the record, or
its key if the menu knows its objects by name and the record has no id. And no two of its words have
the name of the same attribute. -/
theorem update_addresses_one {m : Menu} (known : m ∈ samples ++ catalog) {r : Record m}
    (keyed : m.keyOf r ≠ "") :
    (∃ next, m.update r = .send (m.setCommand r) next)
      ∧ ((r.textOf idWire ≠ ""
            ∧ (m.setCommand r).words.filter selects = ["=.id=" ++ r.textOf idWire])
          ∨ (m.key ≠ idWire ∧ r.textOf idWire = ""
            ∧ (m.setCommand r).words.filter selects = ["=numbers=" ++ m.keyOf r]))
      ∧ (((m.setCommand r).words.filterMap Wire.Sentence.attribute?).map Prod.fst).Nodup := by
  have haddressable := addressable_of_known known
  have hselects := haddressable.filter_selects_setCommand keyed
  refine ⟨?_, ?_, ?_⟩
  · rw [update, if_neg (fun h => keyed (String.isEmpty_iff.1 h))]
    exact ⟨_, rfl⟩
  · by_cases hid : r.textOf idWire = ""
    · rw [if_pos hid] at hselects
      exact .inr ⟨key_ne_idWire keyed hid, hid, hselects⟩
    · rw [if_neg hid] at hselects
      exact .inl ⟨hid, hselects⟩
  · obtain ⟨rest, hrest⟩ := haddressable.exists_verb "set"
    -- the path is the one word that is no attribute
    have hpath : Wire.Sentence.attribute? (m.verb "set") = none := by
      simp [Wire.Sentence.attribute?, hrest]
    rw [haddressable.words_setCommand, List.filterMap_cons_none hpath,
      Wire.Sentence.filterMap_attributeWord (haddressable.plain_assignments r)]
    exact haddressable.nodup_assignments r

/-- A script without an id, the name, source and policy of which read like selectors. -/
def misleading : Record script :=
  .cons "" (.cons "=.id=*1" (.cons "" (.cons "!done\n=.id=*7\n=numbers=*8" (.cons "=numbers=*9"
    (.cons false (.cons "" .nil))))))

/-- It is selected by its name, and by nothing that stands in its texts. -/
theorem update_addresses_one_misleading :
    script ∈ samples ++ catalog ∧ script.keyOf misleading ≠ ""
      ∧ (script.setCommand misleading).words.filter selects = ["=numbers==.id=*1"] := by
  have hknown : script ∈ samples ++ catalog := by decide
  have hkeyed : script.keyOf misleading ≠ "" := by decide
  obtain ⟨-, ⟨hid, -⟩ | ⟨-, -, hselects⟩, -⟩ := update_addresses_one hknown hkeyed
  · exact absurd rfl hid
  · exact ⟨hknown, hkeyed, hselects⟩

end Menu

end RouterMenu
