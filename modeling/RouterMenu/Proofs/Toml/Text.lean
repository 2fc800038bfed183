import Mathlib.Data.List.TakeWhile
import RouterMenu.Proofs.Text.Numeral
import RouterMenu.Toml.Writer

/-!
# Texts and keys of settings files are read back

Whatever is in a text, one of the six ways of writing it is chosen, and each is read back
(`text_writeText`): between single quotes or double ones, on one line or over several, with
escapes or without. Over several lines quotes may stand for themselves, but no more than two in a
row, so that they are told from the three that end the text (`linesText_quoted`). Keys are written
in fewer ways, and a path of keys is read back to the bracket that ends it (`key_path`).
-/

namespace RouterMenu.Toml

variable {s acc rest : List Char} {q : Quotes}

/-! ## Escapes -/

theorem hexDigit?_upper {d : Nat} (h : d < 16) :
    hexDigit? (Text.upper ("0123456789abcdef".toList.getD d '0')) = some d := by
  have hall : ∀ d, d < 16 →
      hexDigit? (Text.upper ("0123456789abcdef".toList.getD d '0')) = some d := by decide
  exact hall d h

/-- A numeral of two digits at most, filled up to four. -/
theorem fourDigits_eq {n : Nat} (h : n < 256) :
    fourDigits n = ['0', '0', Text.upper ("0123456789abcdef".toList.getD (n / 16) '0'),
      Text.upper ("0123456789abcdef".toList.getD (n % 16) '0')] := by
  by_cases hlow : n < 16
  · have hzero : n / 16 = 0 := by omega
    rw [fourDigits, Text.hex, Text.hexDigitsOf, if_pos hlow, hzero]
    rfl
  · have hhigh : n / 16 < 16 := by omega
    rw [fourDigits, Text.hex, Text.hexDigitsOf, if_neg hlow, Text.hexDigitsOf, if_pos hhigh,
      Nat.mod_eq_of_lt hhigh]
    rfl

theorem codePoint?_fourDigits {n : Nat} (h : n < 256) :
    codePoint? (fourDigits n) = some (Char.ofNat n) := by
  have hhigh : n / 16 < 16 := by omega
  have hlow : n % 16 < 16 := Nat.mod_lt _ (by decide)
  have hvalid : n.isValidChar := .inl (by omega)
  have hzero : hexDigit? '0' = some 0 := by decide
  have hvalue : ((0 * 16 + 0) * 16 + 0) * 16 + n / 16 = n / 16 := by omega
  rw [fourDigits_eq h, codePoint?]
  simp only [List.foldlM_cons, List.foldlM_nil, hzero, hexDigit?_upper hhigh, hexDigit?_upper hlow,
    Option.map_some, bind, Option.bind, pure, hvalue, Nat.div_add_mod' n 16]
  exact if_pos hvalid

theorem lt_of_needsEscape {c : Char} (h : needsEscape c = true) : c.toNat < 256 := by
  simp only [needsEscape, Bool.and_eq_true, Bool.or_eq_true, decide_eq_true_eq, beq_iff_eq] at h
  rcases h.2 with hlt | heq
  · exact Nat.lt_trans (show c.toNat < ' '.toNat from hlt) (by decide)
  · omega

theorem isPlain_of_not_needsEscape {c : Char} (h : ¬ needsEscape c = true) (hline : c ≠ '\n') :
    isPlain c = true := by
  simp only [needsEscape, Bool.and_eq_true, Bool.or_eq_true, decide_eq_true_eq, beq_iff_eq,
    bne_iff_ne, not_and, not_or] at h
  by_cases htab : c = '\t'
  · rw [htab]
    rfl
  · obtain ⟨hlow, hdelete⟩ := h ⟨htab, hline⟩
    have hprint : decide (' ' ≤ c) = true := decide_eq_true (Char.not_lt.1 hlow)
    rw [isPlain, hprint, bne_iff_ne.2 hdelete, Bool.and_self, Bool.or_true]

/-- A character stands for itself between double quotes, or is written as an escape. -/
theorem escapeChar_cases (multiline : Bool) (c : Char) :
    (escapeChar multiline c = [c] ∧ c ≠ '"' ∧ c ≠ '\\'
        ∧ (isPlain c = true ∨ c = '\n' ∧ multiline = true))
      ∨ ∃ x e, escapeChar multiline c = '\\' :: x :: e ∧ isSpace x = false ∧ x ≠ '\n' ∧ x ≠ '\r'
        ∧ ∀ rest, escape? (x :: e ++ rest) = some (c, rest) := by
  -- a line break in several lines and a plain character stand for themselves
  fun_cases escapeChar multiline c
  case case3 _ _ hline hmultiline =>
    subst hline
    exact .inl ⟨rfl, by decide, by decide, .inr ⟨rfl, hmultiline⟩⟩
  case case9 hcode =>
    have hlt := lt_of_needsEscape hcode
    refine .inr ⟨'u', fourDigits c.toNat, rfl, by decide, by decide, by decide, fun rest => ?_⟩
    -- four digits are enough for all that is escaped by number
    have hread := codePoint?_fourDigits hlt
    rw [Char.ofNat_toNat] at hread
    have hlength : (fourDigits c.toNat).length = 4 := by
      rw [fourDigits_eq hlt]
      rfl
    rw [List.cons_append, escape?, List.length_append, hlength, if_neg (by omega),
      List.take_left' hlength, List.drop_left' hlength, hread]
    rfl
  case case10 _ _ hline _ _ hquote hbackslash hcode =>
    exact .inl ⟨rfl, hquote, hbackslash, .inl (isPlain_of_not_needsEscape hcode hline)⟩
  all_goals
    subst c
    exact .inr ⟨_, [], rfl, by decide, by decide, by decide, fun rest => rfl⟩

/-! ## Text on one line -/

theorem escapeChar_ne_nil (multiline : Bool) (c : Char) : escapeChar multiline c ≠ [] := by
  obtain ⟨h, -⟩ | ⟨x, e, h, -⟩ := escapeChar_cases multiline c
  all_goals
    rw [h]
    exact List.cons_ne_nil _ _

theorem lineText_quote (q : Quotes) (fuel : Nat) (acc rest : List Char) :
    lineText q (fuel + 1) acc (q.char :: rest) = some (String.ofList acc.reverse, rest) := by
  rw [lineText, if_pos rfl]

theorem lineText_plain {c : Char} (fuel : Nat) (hquote : c ≠ q.char)
    (hbackslash : q = .double → c ≠ '\\') (hplain : isPlain c = true) :
    lineText q (fuel + 1) acc (c :: rest) = lineText q fuel (c :: acc) rest := by
  rw [lineText, if_neg hquote, if_neg (fun h => hbackslash h.1 h.2), if_pos hplain]

/-- Text is read up to the quote that ends it, if one step reads what is written of one
character. -/
theorem lineText_written {w : Char → List Char} (hw : ∀ c ∈ s, ∀ fuel acc rest,
      lineText q (fuel + 1) acc (w c ++ rest) = lineText q fuel (c :: acc) rest)
    {fuel : Nat} (hfuel : s.length < fuel) :
    lineText q fuel acc (s.flatMap w ++ q.char :: rest)
      = some (String.ofList (acc.reverse ++ s), rest) := by
  induction s generalizing acc fuel with
  | nil =>
    obtain ⟨fuel, rfl⟩ : ∃ k, fuel = k + 1 := ⟨fuel - 1, by omega⟩
    rw [List.flatMap_nil, List.nil_append, lineText_quote, List.append_nil]
  | cons c s ih =>
    obtain ⟨fuel, rfl⟩ : ∃ k, fuel = k + 1 := ⟨fuel - 1, by omega⟩
    rw [List.forall_mem_cons] at hw
    rw [List.flatMap_cons, List.append_assoc, hw.1, ih hw.2 (Nat.lt_of_succ_lt_succ hfuel),
      List.reverse_cons, List.append_assoc, List.singleton_append]

theorem lineText_escapeChar (c : Char) (fuel : Nat) (acc rest : List Char) :
    lineText .double (fuel + 1) acc (escapeChar false c ++ rest)
      = lineText .double fuel (c :: acc) rest := by
  obtain ⟨h, hquote, hbackslash, hplain | ⟨-, hline⟩⟩ | ⟨x, e, h, -, -, -, hescape⟩ :=
    escapeChar_cases false c
  · rw [h, List.singleton_append, lineText_plain fuel hquote (fun _ => hbackslash) hplain]
  · cases hline
  · rw [h, List.cons_append, lineText, if_neg (by decide), if_pos ⟨rfl, rfl⟩, hescape]
    rfl

/-- **Escaped text is read back.** -/
theorem oneLine_escaped (s rest : List Char) :
    oneLine .double (s.flatMap (escapeChar false) ++ '"' :: rest)
      = some (String.ofList s, rest) := by
  have hle := Text.length_le_flatMap fun c (_ : c ∈ s) => escapeChar_ne_nil false c
  refine lineText_written (fun c _ => lineText_escapeChar c) ?_
  rw [List.length_append, List.length_cons]
  omega

/-- **Between single quotes everything is read back as it stands.** -/
theorem oneLine_single (rest : List Char) (hplain : ∀ c ∈ s, isPlain c = true)
    (hquote : '\x27' ∉ s) :
    oneLine .single (s ++ '\x27' :: rest) = some (String.ofList s, rest) := by
  -- nothing is escaped here, so each character is written as itself
  have hstep : ∀ c ∈ s, ∀ fuel acc rest, lineText .single (fuel + 1) acc ([c] ++ rest)
      = lineText .single fuel (c :: acc) rest := by
    intro c hc fuel acc rest
    have hne : c ≠ Quotes.single.char := by
      rintro rfl
      exact hquote hc
    exact lineText_plain fuel hne (fun h => by cases h) (hplain c hc)
  have hread : oneLine .single (s.flatMap (fun c => [c]) ++ '\x27' :: rest)
      = some (String.ofList s, rest) := by
    refine lineText_written hstep ?_
    rw [List.flatMap_singleton', List.length_append, List.length_cons]
    omega
  rwa [List.flatMap_singleton'] at hread

/-! ## Text on several lines -/

/-- A character is read as written between three quotes, without looking like a quote. -/
def ReadsAs (q : Quotes) (c : Char) (written : List Char) : Prop :=
  (∃ x e, written = x :: e ∧ x ≠ q.char) ∧ ∀ fuel acc rest,
    linesText q (fuel + 1) acc (written ++ rest) = linesText q fuel (c :: acc) rest

theorem readsAs_plain {c : Char} (hquote : c ≠ q.char) (hbackslash : q = .double → c ≠ '\\')
    (hplain : isPlain c = true ∨ c = '\n') : ReadsAs q c [c] := by
  refine ⟨⟨c, [], rfl, hquote⟩, fun fuel acc rest => ?_⟩
  rw [List.singleton_append, linesText, if_neg hquote, if_neg (fun h => hbackslash h.1 h.2)]
  rcases hplain with hplain | rfl
  · rw [if_pos hplain]
  · rw [if_neg (by decide)]
    rfl

theorem readsAs_escapeChar (c : Char) : ReadsAs .double c (escapeChar true c) := by
  obtain ⟨h, hquote, hbackslash, hplain⟩ | ⟨x, e, h, hspace, hline, hreturn, hescape⟩ :=
    escapeChar_cases true c
  · rw [h]
    exact readsAs_plain hquote (fun _ => hbackslash) (hplain.imp_right And.left)
  · rw [h]
    refine ⟨⟨'\\', x :: e, rfl, by decide⟩, fun fuel acc rest => ?_⟩
    -- nothing like an end of a line stands behind the backslash
    have hend : lineEnd? (x :: e ++ rest) = none := by
      rw [lineEnd?, skipSpace, List.cons_append,
        List.dropWhile_cons_of_neg (by rw [hspace]; decide)]
      have hnone : newline? (x :: (e ++ rest)) = none := by
        unfold newline?
        split
        · next h => exact absurd (List.cons.inj h).1 hline
        · next h => exact absurd (List.cons.inj h).1 hreturn
        · rfl
      rw [hnone, Option.map_none]
    rw [List.cons_append, linesText, if_neg (by decide), if_pos ⟨rfl, rfl⟩, hend, hescape]
    rfl

theorem le_longestRun_go (c : Char) (current longest : Nat) (s : List Char) :
    max current longest ≤ longestRun.go c current longest s := by
  fun_induction longestRun.go c current longest s <;> omega

theorem takeWhile_quotes (n : Nat) (hrest : rest.head? ≠ some q.char) :
    (List.replicate n q.char ++ rest).takeWhile (· = q.char) = List.replicate n q.char := by
  rw [List.takeWhile_append_of_pos (by simp)]
  have hnil : rest.takeWhile (· = q.char) = [] := by
    cases rest with
    | nil => rfl
    | cons x rest =>
      have hne : x ≠ q.char := fun h => hrest (congrArg some h)
      rw [List.takeWhile_cons_of_neg (by simpa using hne)]
  rw [hnil, List.append_nil]

/-- Up to two quotes in front of those that end the text belong to it. -/
theorem linesText_close {i : Nat} (hi : i ≤ 2) (fuel : Nat) (acc : List Char)
    (hrest : rest.head? ≠ some q.char) :
    linesText q (fuel + 1) acc (List.replicate i q.char ++ (triple q ++ rest))
      = some (String.ofList (acc.reverse ++ List.replicate i q.char), rest) := by
  have hquotes : List.replicate i q.char ++ (triple q ++ rest)
      = q.char :: (List.replicate (i + 2) q.char ++ rest) := by
    rw [← List.append_assoc, triple, List.replicate_append_replicate]
    rfl
  have hrun : min (i + 2 + 1) 5 = i + 3 := by omega
  rw [hquotes, linesText, if_pos rfl]
  simp only [takeWhile_quotes _ hrest, List.length_replicate, hrun]
  rw [if_neg (by omega), List.drop_left' (by rw [List.length_replicate]; omega)]
  simp

/-- Up to two quotes in front of something else stand for themselves. -/
theorem linesText_quotes {i : Nat} (hpos : 0 < i) (hi : i ≤ 2) (fuel : Nat) (acc : List Char)
    (hrest : rest.head? ≠ some q.char) :
    linesText q (fuel + 1) acc (List.replicate i q.char ++ rest)
      = linesText q fuel (List.replicate i q.char ++ acc) rest := by
  obtain ⟨i, rfl⟩ : ∃ k, i = k + 1 := ⟨i - 1, by omega⟩
  rw [List.replicate_succ, List.cons_append, linesText, if_pos rfl]
  simp only [takeWhile_quotes _ hrest, List.length_replicate]
  rw [if_pos (by omega), List.drop_left' (by rw [List.length_replicate]), ← List.replicate_succ]

/-- **Escaped text is read up to the quotes that end it.** -/
theorem linesText_escaped {w : Char → List Char} (hw : ∀ c ∈ s, ReadsAs q c (w c))
    (hrest : rest.head? ≠ some q.char) {fuel : Nat} (hfuel : s.length < fuel) :
    linesText q fuel acc (s.flatMap w ++ (triple q ++ rest))
      = some (String.ofList (acc.reverse ++ s), rest) := by
  induction s generalizing acc fuel with
  | nil =>
    obtain ⟨fuel, rfl⟩ : ∃ k, fuel = k + 1 := ⟨fuel - 1, by omega⟩
    exact linesText_close (Nat.zero_le 2) fuel acc hrest
  | cons c s ih =>
    obtain ⟨fuel, rfl⟩ : ∃ k, fuel = k + 1 := ⟨fuel - 1, by omega⟩
    rw [List.forall_mem_cons] at hw
    rw [List.flatMap_cons, List.append_assoc, hw.1.2, ih hw.2 (Nat.lt_of_succ_lt_succ hfuel),
      List.reverse_cons, List.append_assoc, List.singleton_append]

/-- **Text with quotes is read up to the quotes that end it,** if no more than two of them stand in
a row. Of those, `i` have been passed already. -/
theorem linesText_quoted (acc : List Char) {w : Char → List Char} (hquote : w q.char = [q.char])
    (hw : ∀ c ∈ s, c ≠ q.char → ReadsAs q c (w c)) (hrest : rest.head? ≠ some q.char)
    {i longest : Nat} (hrun : longestRun.go q.char i longest s ≤ 2) {fuel : Nat}
    (hfuel : i + s.length < fuel) :
    linesText q fuel acc (List.replicate i q.char ++ (s.flatMap w ++ (triple q ++ rest)))
      = some (String.ofList (acc.reverse ++ (List.replicate i q.char ++ s)), rest) := by
  induction s generalizing acc fuel i longest with
  | nil =>
    obtain ⟨fuel, rfl⟩ : ∃ k, fuel = k + 1 := ⟨fuel - 1, by omega⟩
    rw [longestRun.go] at hrun
    rw [List.flatMap_nil, List.nil_append, List.append_nil]
    exact linesText_close (by omega) fuel acc hrest
  | cons c s ih =>
    rw [List.forall_mem_cons] at hw
    rw [List.length_cons] at hfuel
    rw [longestRun.go] at hrun
    rw [List.flatMap_cons, List.append_assoc]
    by_cases hc : c = q.char
    · -- the run of quotes goes on
      rw [if_pos hc] at hrun
      have hread := ih acc hw.2 hrun (by omega : i + 1 + s.length < fuel)
      rw [List.replicate_succ', List.append_assoc, List.append_assoc] at hread
      rw [hc, hquote]
      exact hread
    · rw [if_neg hc] at hrun
      obtain ⟨⟨x, e, hwritten, hx⟩, hstep⟩ := hw.1 hc
      have hi := le_longestRun_go q.char 0 (max i longest) s
      obtain ⟨fuel, rfl⟩ : ∃ k, fuel = k + 1 := ⟨fuel - 1, by omega⟩
      rcases Nat.eq_zero_or_pos i with rfl | hpos
      · have hread := ih (c :: acc) hw.2 hrun (by omega : 0 + s.length < fuel)
        rw [List.reverse_cons, List.append_assoc] at hread
        rw [List.replicate_zero, List.nil_append, hstep]
        exact hread
      · obtain ⟨fuel, rfl⟩ : ∃ k, fuel = k + 1 := ⟨fuel - 1, by omega⟩
        have hhead : (w c ++ (s.flatMap w ++ (triple q ++ rest))).head? ≠ some q.char := by
          rw [hwritten]
          intro h
          exact hx (Option.some.inj h)
        have hread := ih (c :: (List.replicate i q.char ++ acc)) hw.2 hrun
          (by omega : 0 + s.length < fuel)
        rw [linesText_quotes hpos (by omega) _ _ hhead, hstep]
        refine hread.trans ?_
        simp

/-! ## Texts as they are written -/

theorem text_eq_oneLine (h : ∀ more, s ≠ q.char :: q.char :: more) : text q s = oneLine q s := by
  unfold text
  split
  · next a b more =>
    rw [if_neg]
    rintro ⟨rfl, rfl⟩
    exact h more rfl
  · rfl

theorem head?_flatMap_escapeChar (multiline : Bool) {x : Char} {more : List Char}
    (h : s.flatMap (escapeChar multiline) ++ rest = x :: more) :
    (s = [] ∧ rest = x :: more) ∨ x = '\\' ∨ (x ∈ s ∧ x ≠ '"') := by
  cases s with
  | nil => exact .inl ⟨rfl, h⟩
  | cons c s =>
    refine .inr ?_
    rw [List.flatMap_cons] at h
    obtain ⟨hwritten, hquote, -⟩ | ⟨y, e, hwritten, -⟩ := escapeChar_cases multiline c
    · rw [hwritten] at h
      cases h
      exact .inr ⟨List.mem_cons_self .., hquote⟩
    · rw [hwritten] at h
      cases h
      exact .inl rfl

/-- Text between double quotes on one line is read back. -/
theorem text_double (s : List Char) (hrest : rest.head? ≠ some '"') :
    text .double (s.flatMap (escapeChar false) ++ '"' :: rest) = some (String.ofList s, rest) := by
  rw [text_eq_oneLine, oneLine_escaped]
  intro more h
  obtain ⟨-, heq⟩ | hx | ⟨-, hx⟩ := head?_flatMap_escapeChar false h
  · cases heq
    exact hrest rfl
  · cases hx
  · exact hx rfl

/-- Text between single quotes on one line is read back. -/
theorem text_single (hplain : ∀ c ∈ s, isPlain c = true) (hquote : '\x27' ∉ s)
    (hrest : rest.head? ≠ some '\x27') :
    text .single (s ++ '\x27' :: rest) = some (String.ofList s, rest) := by
  rw [text_eq_oneLine, oneLine_single rest hplain hquote]
  intro more h
  cases s with
  | nil =>
    cases h
    exact hrest rfl
  | cons c s =>
    have hc : c = '\x27' := (List.cons.inj h).1
    exact hquote (hc ▸ List.mem_cons_self ..)

theorem newline?_eq_none (hline : s.head? ≠ some '\n') (hreturn : s.head? ≠ some '\r') :
    newline? s = none := by
  unfold newline?
  split
  · exact absurd rfl hline
  · exact absurd rfl hreturn
  · rfl

/-- What stands between three quotes does not begin with the end of a line, if there is none in it.
-/
theorem newline?_inner {w : Char → List Char}
    (hw : ∀ c ∈ s, ∃ x e, w c = x :: e ∧ (x = c ∨ x = '\\')) (hline : '\n' ∉ s)
    (hreturn : '\r' ∉ s) : newline? (s.flatMap w ++ (triple q ++ rest)) = none := by
  cases s with
  | nil => cases q <;> rfl
  | cons c s =>
    rw [List.mem_cons, not_or] at hline hreturn
    obtain ⟨x, e, hwritten, hx⟩ := hw c (List.mem_cons_self ..)
    -- what comes first is a character of the text or the mark of an escape
    have hhead : ((c :: s).flatMap w ++ (triple q ++ rest)).head? = some x := by
      rw [List.flatMap_cons, hwritten]
      rfl
    refine newline?_eq_none ?_ ?_ <;> rw [hhead] <;> intro h
    · obtain rfl : x = '\n' := Option.some.inj h
      exact hx.elim hline.1 (by decide)
    · obtain rfl : x = '\r' := Option.some.inj h
      exact hx.elim hreturn.1 (by decide)

/-- What stands between three quotes is read from behind the end of a line, if one stands there. -/
theorem text_triple {w : Char → List Char} (hw : ∀ c ∈ s, w c ≠ []) {start : List Char}
    (hstart : start = ['\n'] ∨ start = [] ∧ newline? (s.flatMap w ++ (triple q ++ rest)) = none)
    (hread : ∀ fuel, s.length < fuel → linesText q fuel [] (s.flatMap w ++ (triple q ++ rest))
      = some (String.ofList s, rest)) :
    text q (q.char :: q.char :: (start ++ (s.flatMap w ++ (triple q ++ rest))))
      = some (String.ofList s, rest) := by
  -- a line break right behind the opening quotes does not belong to the text
  have hinner : (newline? (start ++ (s.flatMap w ++ (triple q ++ rest)))).getD
      (start ++ (s.flatMap w ++ (triple q ++ rest))) = s.flatMap w ++ (triple q ++ rest) := by
    rcases hstart with rfl | ⟨rfl, hnone⟩
    · rfl
    · rw [List.nil_append, hnone]
      rfl
  have hle := Text.length_le_flatMap hw
  unfold text
  simp only [and_self, if_true, hinner]
  refine hread _ ?_
  simp only [List.length_append]
  omega

theorem unquoted_cases (c : Char) : (c = '"' ∧ writeText.unquoted c = [c])
    ∨ (c ≠ '"' ∧ writeText.unquoted c = escapeChar true c) := by
  rw [writeText.unquoted]
  by_cases hc : c = '"'
  · exact .inl ⟨hc, if_pos hc⟩
  · exact .inr ⟨hc, if_neg hc⟩

theorem not_mem_return (hplain : ∀ c ∈ s, needsEscape c = false) : '\r' ∉ s := by
  intro h
  have hcode := hplain _ h
  revert hcode
  decide

/-- Text between three double quotes is read back, quotes and all. -/
theorem text_unquoted {start : List Char} (hcodes : ∀ c ∈ s, needsEscape c = false)
    (hrun : longestRun '"' s ≤ 2) (hstart : start = ['\n'] ∨ start = [] ∧ '\n' ∉ s)
    (hrest : rest.head? ≠ some '"') :
    text .double
        ('"' :: '"' :: (start ++ (s.flatMap writeText.unquoted ++ (triple .double ++ rest))))
      = some (String.ofList s, rest) := by
  -- written or escaped, a character begins with itself or with a backslash
  have hhead : ∀ c ∈ s, ∃ x e, writeText.unquoted c = x :: e ∧ (x = c ∨ x = '\\') := by
    intro c _
    obtain ⟨-, h⟩ | ⟨-, h⟩ := unquoted_cases c
    · exact ⟨c, [], h, .inl rfl⟩
    · obtain ⟨hwritten, -⟩ | ⟨x, e, hwritten, -⟩ := escapeChar_cases true c
      · exact ⟨c, [], h.trans hwritten, .inl rfl⟩
      · exact ⟨'\\', x :: e, h.trans hwritten, .inr rfl⟩
  have hne : ∀ c ∈ s, writeText.unquoted c ≠ [] := by
    intro c hc
    obtain ⟨x, e, h, -⟩ := hhead c hc
    rw [h]
    exact List.cons_ne_nil _ _
  have hreads : ∀ c ∈ s, c ≠ '"' → ReadsAs .double c (writeText.unquoted c) := by
    intro c _ hc
    obtain ⟨heq, -⟩ | ⟨-, h⟩ := unquoted_cases c
    · exact absurd heq hc
    · rw [h]
      exact readsAs_escapeChar c
  refine text_triple (q := .double) hne ?_ fun fuel hfuel => ?_
  · exact hstart.imp_right fun ⟨h, hline⟩ => ⟨h, newline?_inner hhead hline (not_mem_return hcodes)⟩
  · exact linesText_quoted (q := .double) (i := 0) [] rfl hreads hrest hrun (by omega)

/-- Text between three single quotes is read back as it stands. -/
theorem text_raw {start : List Char} (hcodes : ∀ c ∈ s, needsEscape c = false)
    (hrun : longestRun '\x27' s ≤ 2) (hstart : start = ['\n'] ∨ start = [] ∧ '\n' ∉ s)
    (hrest : rest.head? ≠ some '\x27') :
    text .single ('\x27' :: '\x27' :: (start ++ (s ++ (triple .single ++ rest))))
      = some (String.ofList s, rest) := by
  -- it is the same with every character written as itself
  have hreads : ∀ c ∈ s, c ≠ '\x27' → ReadsAs .single c [c] := by
    intro c hc hquote
    refine readsAs_plain hquote (fun h => by cases h) ?_
    by_cases hline : c = '\n'
    · exact .inr hline
    · exact .inl (isPlain_of_not_needsEscape (Bool.eq_false_iff.1 (hcodes c hc)) hline)
  have hread : text .single ('\x27' :: '\x27' ::
      (start ++ (s.flatMap (fun c => [c]) ++ (triple .single ++ rest))))
        = some (String.ofList s, rest) := by
    refine text_triple (q := .single) (fun c _ => List.cons_ne_nil _ _) ?_ fun fuel hfuel => ?_
    · exact hstart.imp_right fun ⟨h, hline⟩ =>
        ⟨h, newline?_inner (fun c _ => ⟨c, [], rfl, .inl rfl⟩) hline (not_mem_return hcodes)⟩
    · exact linesText_quoted (q := .single) (i := 0) [] rfl hreads hrest hrun (by omega)
  rwa [List.flatMap_singleton'] at hread

/-- Text between three double quotes is read back from its escapes. -/
theorem text_escaped (s : List Char) (hrest : rest.head? ≠ some '"') :
    text .double
        ('"' :: '"' :: (['\n'] ++ (s.flatMap (escapeChar true) ++ (triple .double ++ rest))))
      = some (String.ofList s, rest) :=
  text_triple (q := .double) (fun c _ => escapeChar_ne_nil true c) (.inl rfl) fun _ hfuel =>
    linesText_escaped (fun c _ => readsAs_escapeChar c) hrest hfuel

/-- The end of a line that is written behind three quotes. -/
theorem start_cases (s : List Char) :
    (if s.contains '\n' then ['\n'] else ([] : List Char)) = ['\n']
      ∨ (if s.contains '\n' then ['\n'] else ([] : List Char)) = [] ∧ '\n' ∉ s := by
  by_cases h : '\n' ∈ s
  · exact .inl (if_pos (List.contains_iff_mem.2 h))
  · exact .inr ⟨if_neg fun hc => h (List.contains_iff_mem.1 hc), h⟩

/-- **A text is read back behind its first quote,** whichever way it is written. -/
theorem text_writeText (t : String) : ∃ q body, writeText t = q.char :: body ∧
    ∀ rest : List Char, (∀ q : Quotes, rest.head? ≠ some q.char) →
      text q (body ++ rest) = some (t, rest) := by
  have ht : String.ofList t.toList = t := String.ofList_toList
  unfold writeText
  simp only
  generalize t.toList = s at ht ⊢
  have hcodes (h : s.any needsEscape = false) : ∀ c ∈ s, needsEscape c = false := by
    simpa using h
  split
  · -- between double quotes, with nothing to escape
    refine ⟨.double, _, rfl, fun rest hrest => ?_⟩
    simpa [ht] using text_double s (hrest .double)
  split
  · next hcondition =>
    -- between single quotes
    simp only [Bool.and_eq_true, Bool.not_eq_true', List.contains_eq_mem, decide_eq_false_iff_not]
      at hcondition
    obtain ⟨⟨hany, hquote⟩, hline⟩ := hcondition
    have hplain : ∀ c ∈ s, isPlain c = true := by
      intro c hc
      refine isPlain_of_not_needsEscape (Bool.eq_false_iff.1 (hcodes hany c hc)) ?_
      rintro rfl
      exact hline hc
    refine ⟨.single, _, rfl, fun rest hrest => ?_⟩
    simpa [ht] using text_single hplain hquote (hrest .single)
  split
  · next hcondition =>
    -- between three double quotes, which may stand for themselves inside
    simp only [Bool.and_eq_true, Bool.not_eq_true', decide_eq_true_eq] at hcondition
    obtain ⟨⟨hany, -⟩, hrun⟩ := hcondition
    refine ⟨.double, _, rfl, fun rest hrest => ?_⟩
    simpa [ht, Quotes.char] using
      text_unquoted (hcodes hany) hrun (start_cases s) (hrest .double)
  split
  · next hcondition =>
    -- between three single quotes
    simp only [Bool.and_eq_true, Bool.not_eq_true', decide_eq_true_eq] at hcondition
    refine ⟨.single, _, rfl, fun rest hrest => ?_⟩
    simpa [ht, Quotes.char] using
      text_raw (hcodes hcondition.1) hcondition.2 (start_cases s) (hrest .single)
  split
  · next hline =>
    -- between three double quotes, with escapes
    refine ⟨.double, _, rfl, fun rest hrest => ?_⟩
    simpa [ht, Quotes.char, hline] using text_escaped s (hrest .double)
  · refine ⟨.double, _, rfl, fun rest hrest => ?_⟩
    simpa [ht] using text_double s (hrest .double)

/-! ## Keys -/

/-- A key begins with a character of a bare key or with a quote. -/
theorem writeKey_eq_cons (k : String) : ∃ x more, writeKey k = x :: more
    ∧ (isBare x = true ∨ ∃ q : Quotes, x = q.char) := by
  unfold writeKey
  simp only
  -- bare, or in one or the other kind of quotes
  split
  · next hbare =>
    simp only [Bool.and_eq_true, Bool.not_eq_true', List.isEmpty_eq_false_iff] at hbare
    obtain ⟨x, more, hx⟩ := List.exists_cons_of_ne_nil hbare.1
    refine ⟨x, more, hx, .inl ?_⟩
    rw [hx, List.all_cons, Bool.and_eq_true] at hbare
    exact hbare.2.1
  split
  · exact ⟨'"', _, rfl, .inr ⟨.double, rfl⟩⟩
  split
  · exact ⟨'\x27', _, rfl, .inr ⟨.single, rfl⟩⟩
  · exact ⟨'"', _, rfl, .inr ⟨.double, rfl⟩⟩

theorem not_isSpace_of_isBare {x : Char} (h : isBare x = true) : isSpace x = false := by
  rw [← Bool.not_eq_true, isSpace, Bool.or_eq_true, beq_iff_eq, beq_iff_eq]
  rintro (rfl | rfl)
  · exact absurd h (by decide)
  · exact absurd h (by decide)

theorem skipSpace_writeKey (k : String) (rest : List Char) :
    skipSpace (writeKey k ++ rest) = writeKey k ++ rest := by
  obtain ⟨x, more, hx, hfirst⟩ := writeKey_eq_cons k
  have hspace : isSpace x = false := by
    rcases hfirst with hbare | ⟨q, rfl⟩
    · exact not_isSpace_of_isBare hbare
    · cases q <;> decide
  rw [hx, List.cons_append, skipSpace, List.dropWhile_cons_of_neg (Bool.eq_false_iff.1 hspace)]

theorem simpleKey_bare (hne : s ≠ []) (hbare : ∀ c ∈ s, isBare c = true)
    (hrest : ∀ x ∈ rest.head?, isBare x = false) :
    simpleKey (s ++ rest) = some (String.ofList s, rest) := by
  obtain ⟨c, more, rfl⟩ := List.exists_cons_of_ne_nil hne
  have hc : isBare c = true := hbare c (List.mem_cons_self ..)
  have hnone : rest.takeWhile isBare = [] ∧ rest.dropWhile isBare = rest := by
    cases rest with
    | nil => exact ⟨rfl, rfl⟩
    | cons x rest =>
      have hx := Bool.eq_false_iff.1 (hrest x rfl)
      exact ⟨List.takeWhile_cons_of_neg hx, List.dropWhile_cons_of_neg hx⟩
  have hfound : (c :: more ++ rest).takeWhile isBare = c :: more := by
    rw [List.takeWhile_append_of_pos hbare, hnone.1, List.append_nil]
  have hbehind : (c :: more ++ rest).dropWhile isBare = rest := by
    rw [List.dropWhile_append_of_pos hbare, hnone.2]
  -- a bare character is no quote, so the run of such characters is the key
  unfold simpleKey
  split
  · next h =>
    rw [(List.cons.inj h).1] at hc
    exact absurd hc (by decide)
  · next h =>
    rw [(List.cons.inj h).1] at hc
    exact absurd hc (by decide)
  · simp only [hfound, hbehind]
    rfl

/-- **A key is read back,** whichever way it is written. -/
theorem simpleKey_writeKey (k : String) (hrest : ∀ x ∈ rest.head?, isBare x = false) :
    simpleKey (writeKey k ++ rest) = some (k, rest) := by
  have hk : String.ofList k.toList = k := String.ofList_toList
  unfold writeKey
  simp only
  generalize k.toList = s at hk ⊢
  -- the same four ways as in writing, in the same order
  split
  · next hcondition =>
    simp only [Bool.and_eq_true, Bool.not_eq_true', List.isEmpty_eq_false_iff, List.all_eq_true]
      at hcondition
    rw [simpleKey_bare hcondition.1 hcondition.2 hrest, hk]
  split
  · simpa [hk, enclose, simpleKey] using oneLine_escaped s rest
  split
  · next hcondition =>
    simp only [Bool.and_eq_true, Bool.not_eq_true', List.contains_eq_mem, decide_eq_false_iff_not,
      List.any_eq_false, Bool.or_eq_true, beq_iff_eq, not_or] at hcondition
    have hplain : ∀ c ∈ s, isPlain c = true := fun c hc =>
      isPlain_of_not_needsEscape (hcondition.1 c hc).1 (hcondition.1 c hc).2
    simpa [hk, enclose, simpleKey] using oneLine_single rest hplain hcondition.2
  · simpa [hk, enclose, simpleKey] using oneLine_escaped s rest

/-- **A path of keys is read back,** up to what does not go on with it. -/
theorem key_path {ps : List String} (hne : ps ≠ []) {fuel : Nat} (hfuel : ps.length ≤ fuel)
    (hrest : ∀ x ∈ rest.head?, isBare x = false) (hend : (skipSpace rest).head? ≠ some '.') :
    key fuel (List.intercalate ['.'] (ps.map writeKey) ++ rest) = some (ps, skipSpace rest) := by
  -- name by name; behind the last one stands no point
  induction ps generalizing fuel with
  | nil => exact absurd rfl hne
  | cons p ps ih =>
    obtain ⟨fuel, rfl⟩ : ∃ k, fuel = k + 1 := ⟨fuel - 1, by rw [List.length_cons] at hfuel; omega⟩
    cases ps with
    | nil =>
      rw [List.map_cons, List.map_nil, List.intercalate_singleton, key, skipSpace_writeKey,
        simpleKey_writeKey p hrest]
      simp only [bind, Option.bind]
      split
      · next h => exact absurd (congrArg List.head? h) hend
      · rfl
    | cons p' ps =>
      have hread := ih (List.cons_ne_nil _ _) (Nat.le_of_succ_le_succ hfuel)
      have hpoint : ∀ x ∈ ('.' :: (List.intercalate ['.'] ((p' :: ps).map writeKey) ++ rest)).head?,
          isBare x = false := by
        intro x hx
        cases hx
        decide
      have hskip : skipSpace ('.' :: (List.intercalate ['.'] ((p' :: ps).map writeKey) ++ rest))
          = '.' :: (List.intercalate ['.'] ((p' :: ps).map writeKey) ++ rest) := rfl
      rw [List.map_cons, List.map_cons, List.intercalate_cons_cons, ← List.map_cons,
        List.append_assoc, List.append_assoc, List.singleton_append, key, skipSpace_writeKey,
        simpleKey_writeKey p hpoint]
      simp only [bind, Option.bind, hskip, hread]

end RouterMenu.Toml
