import RouterMenu.Proofs.Settings.Layers
import RouterMenu.Proofs.Toml.Value

/-!
# Files of settings are read back line by line

What is left of a file goes into the table that was opened last, so what the lines of a file make up
(`Makes`) is found from its end: a line in front of others adds an entry to that table, or opens
another one (`Makes.line`, `Makes.header`). Lines with entries whose keys are new to the table all
go into it (`Makes.listed`), wherever it hangs.
-/

namespace RouterMenu.Toml

variable {f : File} {s rest v : List Char} {k : String} {item : Item} {es sub all : Entries}

/-! ## Tables at the end -/

namespace Entries

theorem lookup_append_self (h : k ∉ es.map Prod.fst) (x : Item) :
    (es ++ [(k, x)]).lookup k = some x := by
  rw [List.lookup_append, Settings.Node.lookup_eq_none h, Option.none_or, List.lookup_cons,
    beq_self_eq_true]

theorem replace_append_self (h : k ∉ es.map Prod.fst) (x y : Item) :
    replace k y (es ++ [(k, x)]) = es ++ [(k, y)] := by
  induction es with
  | nil => exact if_pos rfl
  | cons e es ih =>
    obtain ⟨l, w⟩ := e
    rw [List.map_cons, List.mem_cons, not_or] at h
    rw [List.cons_append, replace, if_neg (Ne.symm h.1), ih h.2]
    rfl

theorem add_of_not_mem (h : k ∉ es.map Prod.fst) (x : Item) :
    es.add k x = some (es ++ [(k, x)]) := by
  rw [add, Settings.Node.lookup_eq_none h]
  rfl

/-- A table that no header has named is opened at the end. -/
theorem openTable_of_not_mem (h : k ∉ es.map Prod.fst) :
    es.openTable k = some (es ++ [(k, .table .headed [])]) := by
  rw [openTable, Settings.Node.lookup_eq_none h]

/-- A path into a table at the end leads on within this table. -/
theorem within_append (h : k ∉ es.map Prod.fst) {o : Origin} (ho : o ≠ .closed) (ps : List String)
    (g : Entries → Option Entries) (sub : Entries) :
    within (k :: ps) g (es ++ [(k, .table o sub)])
      = (within ps g sub).map fun sub => es ++ [(k, .table o sub)] := by
  rw [within, lookup_append_self h]
  cases o with
  | closed => exact absurd rfl ho
  | _ =>
    simp only [replace_append_self h]

/-- A path into a table that is missing implies it at the end. -/
theorem within_of_not_mem (h : k ∉ es.map Prod.fst) (ps : List String)
    (g : Entries → Option Entries) : within (k :: ps) g es
      = (within ps g []).map fun sub => es ++ [(k, .table .implied sub)] := by
  rw [within, Settings.Node.lookup_eq_none h]

end Entries

/-! ## Lines -/

/-- The lines that are left make up the entries of the whole file. -/
def Makes (f : File) (s : List Char) (all : Entries) : Prop :=
  ∀ fuel, s.length < fuel → (lines fuel f s).map File.entries = some all

theorem makes_nil (f : File) : Makes f [] f.entries := by
  intro fuel hfuel
  obtain ⟨fuel, rfl⟩ : ∃ k, fuel = k + 1 := ⟨fuel - 1, by omega⟩
  rfl

/-- A file is read line by line, unless it starts with a mark of the byte order. -/
theorem Makes.read (h : Makes {} s all) (hmark : s.head? ≠ some '\uFEFF') :
    Toml.read (String.ofList s) = some all := by
  rw [Toml.read, String.toList_ofList]
  split
  · next rest => exact absurd rfl hmark
  · exact h _ (Nat.lt_succ_self _)

theorem Makes.blank (h : Makes f s all) : Makes f ('\n' :: s) all := by
  intro fuel hfuel
  obtain ⟨fuel, rfl⟩ : ∃ k, fuel = k + 1 := ⟨fuel - 1, by omega⟩
  exact h fuel (Nat.lt_of_succ_lt_succ hfuel)

theorem behind_self (mark : Char) (rest : List Char) : behind mark (mark :: rest) = some rest := by
  rw [behind, if_pos rfl]

theorem endLine_newline (rest : List Char) : endLine ('\n' :: rest) = some rest := rfl

/-- A line with an entry is read into the table that was opened last. -/
theorem entry_line (k : String) (hv : Stands v item) (f : File) (rest : List Char) :
    entry f (Settings.line k v ++ rest)
      = (f.entries.within f.path fun es => es.add k item).map
        fun es => ({ f with entries := es }, rest) := by
  obtain ⟨⟨x, more, hx, hspace⟩, hread⟩ := hv
  have hline : Settings.line k v ++ rest
      = List.intercalate ['.'] ([k].map writeKey)
        ++ (' ' :: '=' :: ' ' :: (v ++ '\n' :: rest)) := by
    rw [Settings.line, List.map_cons, List.map_nil, List.intercalate_singleton]
    simp
  -- the key is one name, and a blank stands behind it
  have hkey : key maxDepth (Settings.line k v ++ rest)
      = some ([k], '=' :: ' ' :: (v ++ '\n' :: rest)) := by
    rw [hline]
    exact key_path (List.cons_ne_nil _ _) (by rw [maxDepth, List.length_singleton]; omega)
      (fun y hy => by cases hy; decide) (fun h => by cases h)
  have hskip : skipSpace (' ' :: (v ++ '\n' :: rest)) = v ++ '\n' :: rest := by
    rw [skipSpace, List.dropWhile_cons_of_pos (by decide), hx, List.cons_append,
      List.dropWhile_cons_of_neg (Bool.eq_false_iff.1 hspace)]
  have hadd : (fun es : Entries => es.insert [k].dropLast ([k].getLast?.getD "") item)
      = fun es => es.add k item := rfl
  rw [entry, hkey]
  simp only [bind, Option.bind, behind_self, hskip, hread, endLine_newline, hadd]
  cases f.entries.within f.path fun es => es.add k item <;> rfl

/-- A header opens the table at the end of its path. -/
theorem header_line {path : List String} (hne : path ≠ []) (hlength : path.length ≤ maxDepth)
    (f : File) (rest : List Char) : header f ((Settings.header path).tail ++ rest)
      = (f.entries.within path.dropLast fun es => es.openTable (path.getLast?.getD "")).map
        fun es => (⟨es, path⟩, rest) := by
  have hline : (Settings.header path).tail ++ rest
      = List.intercalate ['.'] (path.map writeKey) ++ (']' :: '\n' :: rest) := by
    rw [Settings.header]
    simp
  have hkey : key maxDepth (List.intercalate ['.'] (path.map writeKey) ++ (']' :: '\n' :: rest))
      = some (path, ']' :: '\n' :: rest) :=
    key_path hne hlength (fun y hy => by cases hy; decide) (fun h => by cases h)
  rw [hline, header]
  · simp only [bind, Option.bind, hkey, behind_self, endLine_newline, Bool.false_eq_true, if_false]
    cases f.entries.within path.dropLast fun es => es.openTable (path.getLast?.getD "") <;> rfl
  · -- no second bracket stands behind the first
    intro more h
    obtain ⟨p, ps, rfl⟩ := List.exists_cons_of_ne_nil hne
    obtain ⟨x, written, hx, hfirst⟩ := writeKey_eq_cons p
    obtain ⟨behind, hpath⟩ : ∃ behind, List.intercalate ['.'] ((p :: ps).map writeKey)
        = writeKey p ++ behind := by
      cases ps with
      | nil =>
        refine ⟨[], ?_⟩
        rw [List.map_cons, List.map_nil, List.intercalate_singleton, List.append_nil]
      | cons p' ps =>
        refine ⟨['.'] ++ List.intercalate ['.'] ((p' :: ps).map writeKey), ?_⟩
        rw [List.map_cons, List.map_cons, List.intercalate_cons_cons, List.append_assoc]
    rw [hpath, hx] at h
    obtain rfl : x = '[' := (List.cons.inj h).1
    rcases hfirst with hbare | ⟨q, hq⟩
    · exact absurd hbare (by decide)
    · cases q <;> cases hq

/-- A line that begins like an entry is read as one. -/
theorem lines_entry {x : Char} (hx : isSpace x = false) (hcomment : x ≠ '#') (hbracket : x ≠ '[')
    (hline : x ≠ '\n') (hreturn : x ≠ '\r') (fuel : Nat) (f : File) (more : List Char) :
    lines (fuel + 1) f (x :: more)
      = (entry f (x :: more)).bind fun (f, rest) => lines fuel f rest := by
  have hskip : skipSpace (x :: more) = x :: more :=
    List.dropWhile_cons_of_neg (Bool.eq_false_iff.1 hx)
  have hnewline : newline? (x :: more) = none :=
    newline?_eq_none (fun h => hline (Option.some.inj h)) (fun h => hreturn (Option.some.inj h))
  rw [lines]
  simp only [hskip]
  -- what begins a line decides what it is, and this is no comment, header or end
  split
  · next h => cases h
  · next h => exact absurd (List.cons.inj h).1 hcomment
  · next h => exact absurd (List.cons.inj h).1 hbracket
  · rw [hnewline]
    rfl

theorem lines_header (fuel : Nat) (f : File) (s : List Char) : lines (fuel + 1) f ('[' :: s)
    = (header f s).bind fun (f, rest) => lines fuel f rest := rfl

/-- A line with an entry in front of others. -/
theorem Makes.line {path : List String} {es es' : Entries} (hv : Stands v item)
    (hadd : (es.within path fun es => es.add k item) = some es') (h : Makes ⟨es', path⟩ rest all) :
    Makes ⟨es, path⟩ (Settings.line k v ++ rest) all := by
  intro fuel hfuel
  obtain ⟨fuel, rfl⟩ : ∃ k, fuel = k + 1 := ⟨fuel - 1, by omega⟩
  have hentry : entry ⟨es, path⟩ (Settings.line k v ++ rest) = some (⟨es', path⟩, rest) := by
    rw [entry_line k hv]
    simp only [hadd, Option.map_some]
  obtain ⟨x, more, hx, hfirst⟩ := writeKey_eq_cons k
  have hcons : Settings.line k v ++ rest = x :: (more ++ " = ".toList ++ v ++ ['\n'] ++ rest) := by
    rw [Settings.line, hx]
    rfl
  have hrest : rest.length < fuel := by
    rw [hcons] at hfuel
    simp only [List.length_cons, List.length_append] at hfuel
    omega
  -- the key begins with a bare character or a quote, and so with nothing else
  have hne {c : Char} (hc : isBare c = false ∧ ∀ q ∈ [Quotes.double, .single], c ≠ q.char) :
      x ≠ c := by
    rintro rfl
    rcases hfirst with hbare | ⟨q, hq⟩
    · rw [hbare] at hc
      exact absurd hc.1 (by decide)
    · exact hc.2 q (by cases q <;> decide) hq
  have hspace : isSpace x = false := by
    rw [isSpace, Bool.or_eq_false_iff, beq_eq_false_iff_ne, beq_eq_false_iff_ne]
    exact ⟨hne (by decide), hne (by decide)⟩
  rw [hcons] at hentry ⊢
  rw [lines_entry hspace (hne (by decide)) (hne (by decide)) (hne (by decide)) (hne (by decide)),
    hentry]
  exact h fuel hrest

/-- A header in front of other lines. -/
theorem Makes.header (parents : List String) {path : List String} {es es' : Entries}
    (hlength : parents.length < maxDepth)
    (hopen : (es.within parents fun es => es.openTable k) = some es')
    (h : Makes ⟨es', parents ++ [k]⟩ rest all) :
    Makes ⟨es, path⟩ (Settings.header (parents ++ [k]) ++ rest) all := by
  intro fuel hfuel
  obtain ⟨fuel, rfl⟩ : ∃ k, fuel = k + 1 := ⟨fuel - 1, by omega⟩
  have hread := header_line (List.append_ne_nil_of_right_ne_nil parents (List.cons_ne_nil k []))
    (by rwa [List.length_append]) ⟨es, path⟩ rest
  simp only [List.dropLast_concat, List.getLast?_concat, Option.getD_some, hopen, Option.map_some]
    at hread
  have hcons : Settings.header (parents ++ [k]) ++ rest
      = '[' :: ((Settings.header (parents ++ [k])).tail ++ rest) := rfl
  -- the header takes up some of the characters, so there is fuel for the rest
  have hrest : rest.length < fuel := by
    rw [hcons, List.length_cons, List.length_append] at hfuel
    omega
  rw [hcons, lines_header, hread]
  exact h fuel hrest

/-! ## The lines of a table -/

/-- An entry whose value may be absent. -/
def present (k : String) (value? : Option Item) : Entries := (value?.map (k, ·)).toList

/-- Lines that list entries, one by one. -/
inductive Lists : List Char → Entries → Prop where
  | nil : Lists [] []
  | line {k : String} {v s : List Char} {item : Item} {es : Entries} (stands : Stands v item)
      (more : Lists s es) : Lists (Settings.line k v ++ s) ((k, item) :: es)

theorem Lists.append {s t : List Char} {es fs : Entries} (h : Lists s es) (h' : Lists t fs) :
    Lists (s ++ t) (es ++ fs) := by
  induction h with
  | nil => exact h'
  | line stands _ ih =>
    rw [List.append_assoc]
    exact .line stands ih

theorem Lists.single (k : String) (hv : Stands v item) : Lists (Settings.line k v) [(k, item)] := by
  have h := Lists.line hv .nil (k := k)
  rwa [List.append_nil] at h

theorem Lists.present {α : Type} {write : α → List Char} {toItem : α → Item} (k : String)
    (value? : Option α) (hstands : ∀ a ∈ value?, Stands (write a) (toItem a)) :
    Lists (Settings.line? k (value?.map write)) (present k (value?.map toItem)) := by
  cases value? with
  | none => exact .nil
  | some a => exact .single k (hstands a rfl)

/-- **Lines that list entries put them into the table opened last,** wherever it hangs, if their
keys are new to it. -/
theorem Makes.listed {path : List String} {hang : Entries → Entries}
    (hhang : ∀ g sub, (hang sub).within path g = (g sub).map hang) (h : Lists s es)
    (hnew : ((sub ++ es).map Prod.fst).Nodup)
    (hrest : Makes ⟨hang (sub ++ es), path⟩ rest all) : Makes ⟨hang sub, path⟩ (s ++ rest) all := by
  induction h generalizing sub with
  | nil => rwa [List.append_nil] at hrest
  | @line k v s item es stands more ih =>
    -- each key is new, so its entry comes behind those before
    have hk : k ∉ sub.map Prod.fst := by
      rw [List.map_append, List.nodup_append] at hnew
      intro hmem
      exact hnew.2.2 k hmem k (List.mem_cons_self ..) rfl
    have hadd : ((hang sub).within path fun es => es.add k item)
        = some (hang (sub ++ [(k, item)])) := by
      rw [hhang, Entries.add_of_not_mem hk]
      rfl
    rw [List.append_cons] at hnew hrest
    rw [List.append_assoc]
    exact .line stands hadd (ih hnew hrest)

end RouterMenu.Toml
