import Mathlib.Data.List.Forall2
import Mathlib.Data.List.TakeWhile
import RouterMenu.Proofs.Json.Scalar
import RouterMenu.Proofs.Record.RoundTrip
import RouterMenu.Render.Output

/-!
# Records are read back from their JSON

A record is written entry by entry in the order of its fields, and read entry by entry into a record
that is zero at first. After `k` entries the first `k` fields are as they were and the others are
still zero (`Cells.upTo`): that is the invariant of `reads_entries`, which ends with the whole
record. It rests on the names of the fields being distinct, which is a fact of every menu
(`nodup_names_of_known`), and on no layout: white space may stand wherever a layout puts it.
-/

namespace RouterMenu

/-! ## Records that are read in part -/

namespace Cells

variable {fields : List Field}

/-- A record of which only the first fields have been read. -/
def upTo : {fields : List Field} → Nat → Cells fields → Cells fields
  | fields, 0, _ => zero fields
  | [], _ + 1, .nil => .nil
  | _ :: _, k + 1, .cons x rest => .cons x (rest.upTo k)

theorem upTo_of_le (r : Cells fields) {k : Nat} (h : fields.length ≤ k) : r.upTo k = r := by
  induction r generalizing k with
  | nil => cases k <;> rfl
  | cons x rest ih =>
    obtain ⟨k, rfl⟩ : ∃ j, k = j + 1 := ⟨k - 1, by rw [List.length_cons] at h; omega⟩
    rw [upTo, ih (Nat.le_of_succ_le_succ h)]

theorem map_fst_toEntries (r : Cells fields) :
    r.toEntries.map Prod.fst = fields.map Field.name := by
  induction r with
  | nil => rfl
  | cons x rest ih => rw [toEntries, List.map_cons, List.map_cons, ih]

theorem length_toEntries (r : Cells fields) : r.toEntries.length = fields.length := by
  have hlength := congrArg List.length r.map_fst_toEntries
  rwa [List.length_map, List.length_map] at hlength

/-- The name of a later field is another. -/
theorem ne_of_mem_later (r : Cells fields) (distinct : (fields.map Field.name).Nodup) {k : Nat}
    {name : String} {d : Document} {entries : List (String × Document)}
    (hentries : r.toEntries.drop k = (name, d) :: entries) {entry : String × Document}
    (h : entry ∈ entries) : entry.1 ≠ name := by
  have hnodup : ((r.toEntries.drop k).map Prod.fst).Nodup := by
    rw [List.map_drop, r.map_fst_toEntries]
    exact distinct.sublist (List.drop_sublist ..)
  rw [hentries, List.map_cons, List.nodup_cons] at hnodup
  intro heq
  exact hnodup.1 (List.mem_map.2 ⟨entry, h, heq⟩)

end Cells

namespace Document.Layout

theorem all_newline (l : Layout) : l.newline.all Json.Cursor.isSpace = true := by
  cases l with
  | compact => rfl
  | indented depth =>
    rw [newline, List.all_cons, List.all_replicate]
    simp [Json.Cursor.isSpace]

theorem colon_eq_cons (l : Layout) :
    ∃ blanks, l.colon = ':' :: blanks ∧ blanks.all Json.Cursor.isSpace = true := by
  cases l with
  | compact => exact ⟨[], rfl, rfl⟩
  | indented depth => exact ⟨[' '], rfl, by decide⟩

end Document.Layout

namespace Json.Cursor

open Document (jsonChars jsonText jsonEntries Layout)

variable {c : Cursor} {fields : List Field} {rest : List Char}

/-! ## Keys -/

theorem reads_key_first {blanks : List Char} (name : String) (hblanks : blanks.all isSpace = true)
    (h : c.rest = blanks ++ (jsonText name ++ rest)) : Reads (c.key true) (some name) rest := by
  have hskip : c.skipSpace.rest = '"' :: ((jsonText name).tail ++ rest) :=
    rest_skipSpace_of_blanks hblanks (by decide) h
  have hread : Reads c.skipSpace.next.text name rest :=
    reads_text name (by rw [rest_next, hskip, List.tail_cons])
  rw [key, hskip]
  exact hread.map some

theorem reads_key_more {blanks : List Char} (name : String) (hblanks : blanks.all isSpace = true)
    (h : c.rest = ',' :: (blanks ++ (jsonText name ++ rest))) :
    Reads (c.key false) (some name) rest := by
  have hcomma : c.skipSpace.rest = ',' :: (blanks ++ (jsonText name ++ rest)) :=
    rest_skipSpace_of_blanks (rfl : ([] : List Char).all isSpace = true) (by decide) h
  have hskip : c.skipSpace.next.skipSpace.rest = '"' :: ((jsonText name).tail ++ rest) :=
    rest_skipSpace_of_blanks hblanks (by decide) (by rw [rest_next, hcomma]; rfl)
  have hread : Reads c.skipSpace.next.skipSpace.next.text name rest :=
    reads_text name (by rw [rest_next, hskip, List.tail_cons])
  rw [key, hcomma]
  simp only [hskip, Bool.false_eq_true, if_false]
  exact hread.map some

theorem reads_key_end {blanks : List Char} (first : Bool) (hblanks : blanks.all isSpace = true)
    (h : c.rest = blanks ++ '\x7d' :: rest) : Reads (c.key first) none rest := by
  have hskip : c.skipSpace.rest = '\x7d' :: rest :=
    rest_skipSpace_of_blanks hblanks (by decide) h
  rw [key, hskip]
  exact .ok (by rw [rest_next, hskip, List.tail_cons])

theorem colon_cons (h : c.rest = ':' :: rest) :
    ∃ behind : Cursor, behind.rest = rest ∧ c.colon = .ok behind := by
  have hskip : c.skipSpace.rest = ':' :: rest :=
    rest_skipSpace_of_blanks (rfl : ([] : List Char).all isSpace = true) (by decide) h
  refine ⟨c.skipSpace.next, by rw [rest_next, hskip, List.tail_cons], ?_⟩
  rw [colon]
  simp only [hskip]

/-! ## Entries -/

/-- The entry of the next field is read into its place. -/
theorem into_upTo (l : Layout) (r : Cells fields) (distinct : (fields.map Field.name).Nodup)
    {k : Nat} {name : String} {d : Document} (hentry : r.toEntries[k]? = some (name, d))
    {blanks : List Char} (hblanks : blanks.all isSpace = true) (ends : EndsNumber rest)
    (h : c.rest = blanks ++ (jsonChars l d ++ rest)) :
    ∃ read, into c name (r.upTo k) = some read ∧ Reads read (r.upTo (k + 1)) rest := by
  induction r generalizing k with
  | nil => simp [Cells.toEntries] at hentry
  | @cons f fields x r ih =>
    cases k with
    | zero =>
      obtain ⟨rfl, rfl⟩ : f.name = name ∧ f.type.toDocument x = d := by
        simpa [Cells.toEntries] using hentry
      have hread := reads_fieldValue l f.type x hblanks ends h
      refine ⟨_, if_pos rfl, ?_⟩
      have hzero : r.upTo 0 = Cells.zero fields := by rw [Cells.upTo]
      rw [Cells.upTo, hzero]
      exact hread.map fun x => Cells.cons x (Cells.zero fields)
    | succ k =>
      have hentry' : r.toEntries[k]? = some (name, d) := by
        simpa [Cells.toEntries] using hentry
      rw [List.map_cons, List.nodup_cons] at distinct
      -- the entry belongs to a later field, which has another name
      have hne : f.name ≠ name := by
        rintro rfl
        refine distinct.1 ?_
        rw [← r.map_fst_toEntries]
        exact List.mem_map_of_mem (List.mem_of_getElem? hentry')
      obtain ⟨read, hinto, hread⟩ := ih distinct.2 hentry'
      refine ⟨_, ?_, hread.map fun r => Cells.cons x r⟩
      rw [Cells.upTo, into, if_neg hne, hinto]
      rfl

/-- Reading goes on behind the entry of the next field. -/
theorem entries_step (l : Layout) (r : Cells fields) (distinct : (fields.map Field.name).Nodup)
    {k : Nat} {name : String} {d : Document} (hentry : r.toEntries[k]? = some (name, d))
    {seen : List String} (hnew : name ∉ seen) (ends : EndsNumber rest) (fuel : Nat)
    (hkey : Reads (c.key seen.isEmpty) (some name) (l.colon ++ (jsonChars l d ++ rest))) :
    ∃ behind : Cursor, behind.rest = rest
      ∧ c.entries seen (r.upTo k) (fuel + 1)
          = behind.entries (name :: seen) (r.upTo (k + 1)) fuel := by
  obtain ⟨blanks, hcolon, hblanks⟩ := l.colon_eq_cons
  obtain ⟨atColon, hrest, hread⟩ := hkey
  rw [hcolon, List.cons_append] at hrest
  obtain ⟨atValue, hvalue, hpast⟩ := colon_cons hrest
  obtain ⟨_, hinto, behind, hbehind, rfl⟩ := into_upTo l r distinct hentry hblanks ends hvalue
  -- the name is one of a field, and it comes for the first time
  have hknown : (fields.any fun f => f.name == name) = true := by
    have hmem : name ∈ fields.map Field.name := by
      rw [← r.map_fst_toEntries]
      exact List.mem_map_of_mem (List.mem_of_getElem? hentry)
    obtain ⟨f, hf, hname⟩ := List.mem_map.1 hmem
    exact List.any_eq_true.2 ⟨f, hf, beq_iff_eq.2 hname⟩
  have hfresh : ¬ seen.contains name = true := by simpa using hnew
  refine ⟨behind, hbehind, ?_⟩
  rw [entries]
  simp only [hread, bind, Except.bind, hknown, if_true, hfresh, hpast, hinto]
  rfl

/-- What stands behind the first entry of a map: the others, each behind a comma. -/
def further (l : Layout) (entries : List (String × Document)) : List Char :=
  (jsonEntries l entries).flatMap fun entry => ',' :: (l.newline ++ entry)

theorem further_cons (l : Layout) (name : String) (d : Document)
    (entries : List (String × Document)) :
    further l ((name, d) :: entries)
      = ',' :: (l.newline ++
          (jsonText name ++ (l.colon ++ (jsonChars l d ++ further l entries)))) := by
  rw [further, jsonEntries, List.flatMap_cons, List.cons_append]
  simp only [List.append_assoc]
  rfl

theorem endsNumber_of_isSpace {x : Char} (h : isSpace x = true) (s : List Char) :
    EndsNumber (x :: s) := by
  intro y hy
  obtain rfl : x = y := by simpa using hy
  simp only [isSpace, Bool.or_eq_true, beq_iff_eq] at h
  rcases h with ((rfl | rfl) | rfl) | rfl <;> decide

/-- A number ends before the next entry, and before the end of a map. -/
theorem endsNumber_further (l : Layout) (entries : List (String × Document)) {blanks : List Char}
    (hblanks : blanks.all isSpace = true) :
    EndsNumber (further l entries ++ (blanks ++ '\x7d' :: rest)) := by
  cases entries with
  | cons entry entries =>
    rw [further_cons]
    intro y hy
    obtain rfl : ',' = y := by simpa using hy
    decide
  | nil =>
    show EndsNumber (blanks ++ '\x7d' :: rest)
    -- a comma, a blank or the closing brace: none of them goes on with a number
    cases blanks with
    | nil =>
      intro y hy
      obtain rfl : '\x7d' = y := by simpa using hy
      decide
    | cons x blanks =>
      rw [List.all_cons, Bool.and_eq_true] at hblanks
      exact endsNumber_of_isSpace hblanks.1 _

/-- **Reading goes on to the end of the map**: what is left of the record is read, one entry after
another. -/
theorem reads_entries (l : Layout) (r : Cells fields) (distinct : (fields.map Field.name).Nodup)
    {blanks : List Char} (hblanks : blanks.all isSpace = true) {k : Nat}
    {entries : List (String × Document)} (hentries : r.toEntries.drop k = entries)
    {seen : List String} (hseen : seen.isEmpty = false) (hnew : ∀ entry ∈ entries, entry.1 ∉ seen)
    {fuel : Nat} (hfuel : entries.length < fuel)
    (h : c.rest = further l entries ++ (blanks ++ '\x7d' :: rest)) :
    Reads (c.entries seen (r.upTo k) fuel) r rest := by
  -- entry by entry: the fields before `k` are read, and the rest are still zero
  induction entries generalizing c k seen fuel with
  | nil =>
    obtain ⟨fuel, rfl⟩ : ∃ j, fuel = j + 1 := ⟨fuel - 1, by omega⟩
    have hle : fields.length ≤ k := by
      rw [List.drop_eq_nil_iff, r.length_toEntries] at hentries
      exact hentries
    obtain ⟨behind, hbehind, hread⟩ := reads_key_end (c := c) seen.isEmpty hblanks h
    refine ⟨behind, hbehind, ?_⟩
    rw [Cursor.entries, hread, r.upTo_of_le hle]
    rfl
  | cons entry entries ih =>
    obtain ⟨name, d⟩ := entry
    obtain ⟨fuel, rfl⟩ : ∃ j, fuel = j + 1 := ⟨fuel - 1, by omega⟩
    have hentry : r.toEntries[k]? = some (name, d) := by
      have hhead := congrArg List.head? hentries
      rwa [List.head?_drop] at hhead
    have hrest : r.toEntries.drop (k + 1) = entries := by
      rw [← List.tail_drop, hentries, List.tail_cons]
    have hlater : ∀ entry ∈ entries, entry.1 ∉ name :: seen := by
      intro entry he hmem
      rcases List.mem_cons.1 hmem with heq | hmem
      · exact r.ne_of_mem_later distinct hentries he heq
      · exact hnew entry (List.mem_cons_of_mem _ he) hmem
    rw [further_cons] at h
    have hkey : Reads (c.key seen.isEmpty) (some name)
        (l.colon ++ (jsonChars l d ++ (further l entries ++ (blanks ++ '\x7d' :: rest)))) := by
      rw [hseen]
      refine reads_key_more name l.all_newline ?_
      simpa only [List.cons_append, List.append_assoc] using h
    obtain ⟨behind, hbehind, hstep⟩ := entries_step l r distinct hentry
      (hnew _ (List.mem_cons_self ..)) (endsNumber_further l entries hblanks) fuel hkey
    rw [hstep]
    exact ih hrest rfl hlater (Nat.lt_of_succ_lt_succ hfuel) hbehind

theorem length_le_further (l : Layout) (entries : List (String × Document)) :
    entries.length ≤ (further l entries).length := by
  induction entries with
  | nil => exact Nat.le_refl _
  | cons entry entries ih =>
    obtain ⟨name, d⟩ := entry
    rw [further_cons]
    simp only [List.length_cons, List.length_append]
    omega

/-- How the map of a record is laid out. -/
theorem jsonChars_toDocument (l : Layout) (r : Cells fields) :
    (r.toEntries = [] ∧ jsonChars l r.toDocument = ['\x7b', '\x7d'])
      ∨ ∃ name d entries, r.toEntries = (name, d) :: entries
        ∧ jsonChars l r.toDocument = '\x7b' :: (l.deeper.newline ++ (jsonText name
          ++ (l.deeper.colon ++ (jsonChars l.deeper d ++ (further l.deeper entries
            ++ (l.newline ++ ['\x7d'])))))) := by
  -- only a record without fields has nothing between its braces
  cases hentries : r.toEntries with
  | nil =>
    refine .inl ⟨rfl, ?_⟩
    rw [Cells.toDocument, hentries, jsonChars, jsonEntries]
    rfl
  | cons entry entries =>
    refine .inr ⟨entry.1, entry.2, entries, rfl, ?_⟩
    rw [Cells.toDocument, hentries, jsonChars, jsonEntries, Layout.enclose]
    simp only [List.append_assoc]
    rfl

/-- **A record is read back from its map.** -/
theorem reads_record (l : Layout) (title : String) (r : Cells fields)
    (distinct : (fields.map Field.name).Nodup) {blanks : List Char}
    (hblanks : blanks.all isSpace = true)
    (h : c.rest = blanks ++ (jsonChars l r.toDocument ++ rest)) :
    Reads (c.record title fields) r rest := by
  have hzero : Cells.zero fields = r.upTo 0 := by rw [Cells.upTo]
  obtain ⟨hnone, hchars⟩ | ⟨name, d, entries, hentries, hchars⟩ := jsonChars_toDocument l r
  · have hskip : c.skipSpace.rest = '\x7b' :: '\x7d' :: rest := by
      refine rest_skipSpace_of_blanks hblanks (by decide) ?_
      rw [h, hchars]
      rfl
    have hle : fields.length ≤ 0 := by
      rw [← r.length_toEntries, hnone]
      exact Nat.le_refl _
    have hclosed : c.skipSpace.next.rest = [] ++ '\x7d' :: rest := by
      rw [rest_next, hskip]
      rfl
    obtain ⟨behind, hbehind, hread⟩ := reads_key_end true rfl hclosed
    refine ⟨behind, hbehind, ?_⟩
    rw [record, hskip]
    show c.skipSpace.next.entries [] (Cells.zero fields) _ = _
    rw [hzero, Cursor.entries, List.isEmpty_nil, hread, r.upTo_of_le hle]
    rfl
  · have hskip : c.skipSpace.rest = '\x7b' :: (l.deeper.newline ++ (jsonText name
          ++ (l.deeper.colon ++ (jsonChars l.deeper d ++ (further l.deeper entries
            ++ (l.newline ++ '\x7d' :: rest)))))) := by
      refine rest_skipSpace_of_blanks hblanks (by decide) ?_
      rw [h, hchars]
      simp only [List.cons_append, List.append_assoc, List.nil_append]
    have hkey := reads_key_first (c := c.skipSpace.next) name l.deeper.all_newline
      (by rw [rest_next, hskip, List.tail_cons])
    have hentry : r.toEntries[0]? = some (name, d) := by rw [hentries]; rfl
    have hrest : r.toEntries.drop 1 = entries := by rw [hentries]; rfl
    have hnew : ∀ entry ∈ entries, entry.1 ∉ [name] := by
      intro entry he hmem
      exact r.ne_of_mem_later (k := 0) distinct hentries he (List.mem_singleton.1 hmem)
    -- as many characters as there are entries are there at least
    have hfuel : entries.length < c.skipSpace.rest.length := by
      have hle := length_le_further l.deeper entries
      rw [hskip]
      simp only [List.length_cons, List.length_append]
      omega
    obtain ⟨behind, hbehind, hstep⟩ := entries_step l.deeper r distinct hentry
      (List.not_mem_nil : name ∉ []) (endsNumber_further l.deeper entries l.all_newline)
      c.skipSpace.rest.length hkey
    have hread := reads_entries l.deeper r distinct l.all_newline hrest rfl hnew hfuel hbehind
    rw [← hstep, ← hzero] at hread
    rw [record, hskip]
    rw [hskip] at hread
    exact hread

end Json.Cursor

namespace Menu

open Document (jsonChars Layout)

/-- The names of the fields of every menu are distinct. -/
theorem nodup_names_of_known {m : Menu} (known : m ∈ samples ++ catalog) :
    (m.fields.map Field.name).Nodup := by
  have hall : ∀ m ∈ samples ++ catalog, (m.fields.map Field.name).Nodup := by decide +kernel
  exact hall m known

theorem ofJson_jsonChars {m : Menu} (known : m ∈ samples ++ catalog) (l : Layout) (r : Record m)
    {before after : List Char} (hbefore : before.all Json.Cursor.isSpace = true)
    (hafter : after.all Json.Cursor.isSpace = true) :
    m.ofJson (String.ofList (before ++ (jsonChars l r.toDocument ++ after))) = .ok r := by
  obtain ⟨behind, hbehind, hread⟩ := Json.Cursor.reads_record
    (c := ⟨before ++ (jsonChars l r.toDocument ++ after), 1, 0⟩) l m.title r
    (nodup_names_of_known known) hbefore rfl
  have hend : behind.skipSpace.rest = [] := by
    rw [Json.Cursor.rest_skipSpace, hbehind, List.dropWhile_eq_nil_iff]
    simpa using hafter
  rw [ofJson, String.toList_ofList, hread]
  simp only [bind, Except.bind, hend]

/-! ## Lists -/

/-- The parts of a list between its brackets and commas are what is written of its records, with the
white space that the layout puts around them. -/
theorem exists_parts {m : Menu} (known : m ∈ samples ++ catalog) (l : Layout) {after : List Char}
    (hafter : after.all Json.Cursor.isSpace = true) (r : Record m) (records : List (Record m)) :
    ∃ parts : List String, List.Forall₂ (fun part r => m.ofJson part = .ok r) parts (r :: records)
      ∧ List.intercalate [','] (parts.map String.toList)
        = l.newline ++ (jsonChars l r.toDocument
          ++ ((Document.jsonItems l (records.map Cells.toDocument)).flatMap
            (fun item => ',' :: (l.newline ++ item)) ++ after)) := by
  -- each part takes the blanks in front of it; the last one takes those at the end, too
  induction records generalizing r with
  | nil =>
    refine ⟨[String.ofList (l.newline ++ (jsonChars l r.toDocument ++ after))], ?_, ?_⟩
    · exact .cons (ofJson_jsonChars known l r l.all_newline hafter) .nil
    · simp [Document.jsonItems]
  | cons r' records ih =>
    obtain ⟨parts, hread, hwritten⟩ := ih r'
    obtain ⟨part, parts, hpart, hparts, rfl⟩ := List.forall₂_cons_right_iff.1 hread
    refine ⟨String.ofList (l.newline ++ (jsonChars l r.toDocument ++ [])) :: part :: parts, ?_, ?_⟩
    · exact .cons (ofJson_jsonChars known l r l.all_newline rfl) hread
    · rw [List.map_cons, List.map_cons, List.intercalate_cons_cons, ← List.map_cons, hwritten,
        String.toList_ofList, List.map_cons, Document.jsonItems, List.flatMap_cons]
      simp only [List.append_assoc, List.append_nil, List.cons_append, List.nil_append]

/-- **What is printed as JSON is read back.** A record of any menu, whatever its texts and numbers,
is read back from either layout of its JSON. A list of records is printed as a list, and each of its
items is read back as the record it was printed for. -/
theorem ofJson_render {m : Menu} (known : m ∈ samples ++ catalog) {format : OutputFormat}
    (hformat : format = .json ∨ format = .jsonCompact) :
    (∀ (r : Record m) (color : Bool), m.ofJson (Render.one format m r color) = .ok r)
      ∧ ∀ records : List (Record m), ∃ parts : List String,
        Render.list format m records = "[" ++ ",".intercalate parts ++ "]"
          ∧ List.Forall₂ (fun part r => m.ofJson part = .ok r) parts records := by
  -- the two formats are the two layouts of one document
  obtain ⟨l, hone, hlist⟩ : ∃ l : Layout,
      (∀ (r : Record m) color,
        Render.one format m r color = String.ofList (jsonChars l r.toDocument))
        ∧ ∀ records : List (Record m), Render.list format m records
          = String.ofList (jsonChars l (Render.documentOf records)) := by
    rcases hformat with rfl | rfl
    · exact ⟨.indented 0, fun _ _ => rfl, fun _ => rfl⟩
    · exact ⟨.compact, fun _ _ => rfl, fun _ => rfl⟩
  constructor
  · intro r color
    have hread := ofJson_jsonChars known l r (rfl : ([] : List Char).all Json.Cursor.isSpace = true)
      (rfl : ([] : List Char).all Json.Cursor.isSpace = true)
    rwa [List.nil_append, List.append_nil, ← hone r color] at hread
  · intro records
    rw [hlist]
    cases records with
    | nil => exact ⟨[], by cases l <;> rfl, .nil⟩
    | cons r records =>
      obtain ⟨parts, hread, hwritten⟩ := exists_parts known l.deeper l.all_newline r records
      refine ⟨parts, ?_, hread⟩
      rw [← String.toList_inj]
      simp only [String.toList_ofList, String.toList_append, String.toList_intercalate]
      have hcomma : ",".toList = [','] := rfl
      rw [hcomma, hwritten, Render.documentOf, jsonChars, List.map_cons, Document.jsonItems,
        Layout.enclose]
      simp only [List.append_assoc]
      rfl

/-- Quotes, backslashes, control characters and characters beyond the first 65536 are read back, and
so are the greatest number and a negative one. -/
theorem ofJson_render_trial :
    let r := trial ⟨0xFFFFFFFFFFFFFFFF, by decide, by decide⟩ ⟨-5, by decide, by decide⟩
      "say \"no\" \\ \x01 😀"
    sample ∈ samples ++ catalog ∧ sample.ofJson (Render.one .json sample r false) = .ok r
      ∧ ∃ parts : List String,
        Render.list .jsonCompact sample [r, Cells.zero _] = "[" ++ ",".intercalate parts ++ "]"
          ∧ List.Forall₂ (fun part r => sample.ofJson part = .ok r) parts [r, Cells.zero _] := by
  intro r
  have hknown : sample ∈ samples ++ catalog := by decide
  exact ⟨hknown, (ofJson_render hknown (.inl rfl)).1 r false,
    (ofJson_render hknown (.inr rfl)).2 [r, Cells.zero _]⟩

end Menu

end RouterMenu
