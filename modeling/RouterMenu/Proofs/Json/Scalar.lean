import RouterMenu.Document.Json
import RouterMenu.Json.Record
import RouterMenu.Proofs.Record.Scalar

/-!
# JSON scalars are read back

What is written of a text, a truth value or a whole number is read back from wherever it stands
(`reads_fieldValue`). Where that is does not matter: a cursor that stands before some text ends up
before what follows it, on some line and in some column (`Reads`).

A text ends at its quote, whatever is in it, since quotes and backslashes inside are escaped. A
number ends where its digits do, so what follows must not look like more of it (`EndsNumber`).
-/

namespace RouterMenu.Json

/-- A reader comes to a value and stops before the text `rest`. -/
def Reads {α : Type} (read : Except Fault (α × Cursor)) (a : α) (rest : List Char) : Prop :=
  ∃ behind : Cursor, behind.rest = rest ∧ read = .ok (a, behind)

namespace Reads

variable {α β : Type} {read : Except Fault (α × Cursor)} {a : α} {rest : List Char}

theorem ok {c : Cursor} (h : c.rest = rest) : Reads (.ok (a, c)) a rest := ⟨c, h, rfl⟩

theorem map (f : α → β) (h : Reads read a rest) :
    Reads (read.map fun (a, c) => (f a, c)) (f a) rest := by
  obtain ⟨c, hc, rfl⟩ := h
  exact ⟨c, hc, rfl⟩

end Reads

namespace Cursor

variable {c : Cursor} {rest : List Char}

/-! ## Places -/

@[simp] theorem rest_past (c : Cursor) (x : Char) (rest : List Char) :
    (c.past x rest).rest = rest := by
  rw [past]
  split <;> rfl

@[simp] theorem rest_next (c : Cursor) : c.next.rest = c.rest.tail := by
  rw [next]
  split
  · next h => rw [h, List.tail_nil]
  · next h => rw [h, rest_past, List.tail_cons]

theorem rest_spaceFrom (line column : Nat) (s : List Char) :
    (spaceFrom line column s).rest = s.dropWhile isSpace := by
  fun_induction spaceFrom line column s with
  | case1 => rfl
  | case2 line column rest ih => rw [ih, List.dropWhile_cons_of_pos (by decide)]
  | case3 line column x rest hline hspace ih => rw [ih, List.dropWhile_cons_of_pos hspace]
  | case4 line column x rest hline hspace => rw [List.dropWhile_cons_of_neg hspace]

@[simp] theorem rest_skipSpace (c : Cursor) : c.skipSpace.rest = c.rest.dropWhile isSpace :=
  rest_spaceFrom ..

/-- Behind white space stands what does not begin with any. -/
theorem rest_skipSpace_of_blanks {blanks : List Char} {x : Char}
    (hblanks : blanks.all isSpace = true) (hx : isSpace x = false)
    (h : c.rest = blanks ++ x :: rest) : c.skipSpace.rest = x :: rest := by
  rw [rest_skipSpace, h, List.dropWhile_append_of_pos (by simpa using hblanks),
    List.dropWhile_cons_of_neg (by simp [hx])]

/-! ## Texts -/

/-- A digit of base sixteen as it is written. -/
theorem hexDigit?_getD {d : Nat} (h : d < 16) :
    hexDigit? ("0123456789abcdef".toList.getD d '0') = some d := by
  have hall : ∀ d, d < 16 → hexDigit? ("0123456789abcdef".toList.getD d '0') = some d := by decide
  exact hall d h

/-- What stands behind the backslash of a control character. -/
theorem fourDigits_hex {n : Nat} (h : n < 32) :
    ∃ y z, List.replicate (4 - (Text.hex n).length) '0' ++ Text.hex n = ['0', '0', y, z]
      ∧ fourDigits? '0' '0' y z = some n := by
  -- below 32 there are at most two digits, and the rest is filled with zeros
  by_cases hlow : n < 16
  · refine ⟨'0', "0123456789abcdef".toList.getD (n % 16) '0', ?_, ?_⟩
    · rw [Text.hex, Text.hexDigitsOf, if_pos hlow]
      rfl
    · simp only [fourDigits?, hexDigit?_getD (Nat.mod_lt n (by decide : 0 < 16))]
      show some _ = _
      rw [Nat.mod_eq_of_lt hlow]
      simp
  · have hhigh : n / 16 < 16 := by omega
    refine ⟨"0123456789abcdef".toList.getD (n / 16 % 16) '0',
      "0123456789abcdef".toList.getD (n % 16) '0', ?_, ?_⟩
    · rw [Text.hex, Text.hexDigitsOf, if_neg hlow, Text.hexDigitsOf, if_pos hhigh]
      rfl
    · simp only [fourDigits?, hexDigit?_getD (Nat.mod_lt n (by decide : 0 < 16)),
        hexDigit?_getD (Nat.mod_lt (n / 16) (by decide : 0 < 16))]
      show some _ = _
      rw [Nat.mod_eq_of_lt hhigh]
      congr 1
      omega

theorem textFrom_escaped {more acc : List Char} {x : Char} {behind : Cursor} (fuel : Nat)
    (h : c.rest = '\\' :: more) (hescape : (c.past '\\' more).escape = .ok (x, behind)) :
    textFrom acc c (fuel + 1) = textFrom (x :: acc) behind fuel := by
  rw [textFrom]
  simp only [h, hescape]
  rfl

theorem textFrom_plain {acc : List Char} {x : Char} (fuel : Nat) (h : c.rest = x :: rest)
    (hquote : x ≠ '"') (hbackslash : x ≠ '\\') (hcontrol : ¬ x < ' ') :
    textFrom acc c (fuel + 1) = textFrom (x :: acc) (c.past x rest) fuel := by
  rw [textFrom]
  split
  · next hnil => rw [h] at hnil; cases hnil
  · next hq => rw [h] at hq; cases hq; exact absurd rfl hquote
  · next hb => rw [h] at hb; cases hb; exact absurd rfl hbackslash
  · next hx =>
    rw [h] at hx
    cases hx
    rw [if_neg hcontrol]

/-- The escapes of one letter that are written, and the characters they stand for. -/
def letters : List (Char × Char) :=
  [('"', '"'), ('\\', '\\'), ('b', '\x08'), ('f', '\x0c'), ('n', '\n'), ('r', '\r'), ('t', '\t')]

theorem escape_letter {letter x : Char} (hletter : (letter, x) ∈ letters)
    (h : c.rest = letter :: rest) : c.escape = .ok (x, c.past letter rest) := by
  simp only [letters, List.mem_cons, List.not_mem_nil, or_false, Prod.mk.injEq] at hletter
  rw [escape, h]
  rcases hletter with ⟨rfl, rfl⟩ | ⟨rfl, rfl⟩ | ⟨rfl, rfl⟩ | ⟨rfl, rfl⟩ | ⟨rfl, rfl⟩ | ⟨rfl, rfl⟩
    | ⟨rfl, rfl⟩ <;> rfl

/-- The escape of a control character that has no letter. -/
theorem escape_control {n : Nat} (hn : n < 32)
    (h : c.rest = 'u' :: (List.replicate (4 - (Text.hex n).length) '0' ++ Text.hex n ++ rest)) :
    Reads c.escape (Char.ofNat n) rest := by
  obtain ⟨y, z, hwritten, hvalue⟩ := fourDigits_hex hn
  rw [hwritten] at h
  have hbehind : (c.past 'u' ('0' :: '0' :: y :: z :: rest)).rest = '0' :: '0' :: y :: z :: rest :=
    rest_past ..
  have hread : c.escape = .ok (Char.ofNat n,
      ⟨rest, (c.past 'u' ('0' :: '0' :: y :: z :: rest)).line,
        (c.past 'u' ('0' :: '0' :: y :: z :: rest)).column + 4⟩) := by
    simp only [escape, h, unicodeEscape, hexEscape, hbehind, List.cons_append, List.nil_append,
      hvalue, bind, Except.bind]
    rw [if_neg (by omega), if_pos (by omega)]
  exact ⟨_, rfl, hread⟩

/-- One step of reading takes in what was written of one character. -/
theorem textFrom_jsonChar (x : Char) (acc : List Char) (fuel : Nat)
    (h : c.rest = Document.jsonChar x ++ rest) :
    ∃ behind : Cursor, behind.rest = rest
      ∧ textFrom acc c (fuel + 1) = textFrom (x :: acc) behind fuel := by
  revert h
  -- by number, by one more character, or as it stands
  fun_cases Document.jsonChar x with
  | case8 x hcontrol digits =>
    rw [if_pos hcontrol]
    intro h
    obtain ⟨behind, hrest, hread⟩ :=
      escape_control (c := c.past '\\' _) (n := x.toNat) hcontrol (rest_past ..)
    rw [Char.ofNat_toNat] at hread
    exact ⟨behind, hrest, textFrom_escaped fuel h hread⟩
  | case9 x hcontrol hquote hbackslash =>
    rw [if_neg hcontrol]
    intro h
    exact ⟨c.past x rest, rest_past .., textFrom_plain fuel h hquote hbackslash hcontrol⟩
  | _ =>
    intro h
    exact ⟨_, rest_past .., textFrom_escaped fuel h (escape_letter (by decide) (rest_past ..))⟩

/-- Reading goes on to the quote that ends the text. -/
theorem reads_textFrom (s acc : List Char) (fuel : Nat) (hfuel : s.length < fuel)
    (h : c.rest = s.flatMap Document.jsonChar ++ '"' :: rest) :
    Reads (textFrom acc c fuel) (String.ofList (acc.reverse ++ s)) rest := by
  -- the characters read so far are held latest first
  induction s generalizing c acc fuel with
  | nil =>
    obtain ⟨fuel, rfl⟩ : ∃ k, fuel = k + 1 := ⟨fuel - 1, by omega⟩
    have hquote : c.rest = '"' :: rest := by simpa using h
    refine ⟨c.past '"' rest, rest_past .., ?_⟩
    rw [textFrom]
    simp only [hquote, List.append_nil]
  | cons x s ih =>
    obtain ⟨fuel, rfl⟩ : ∃ k, fuel = k + 1 := ⟨fuel - 1, by omega⟩
    rw [List.flatMap_cons, List.append_assoc] at h
    obtain ⟨behind, hrest, hstep⟩ := textFrom_jsonChar x acc fuel h
    have hmore : s.length < fuel := by simpa using hfuel
    rw [hstep]
    have hread := ih (x :: acc) fuel hmore hrest
    simpa using hread

theorem jsonChar_ne_nil (x : Char) : Document.jsonChar x ≠ [] := by
  fun_cases Document.jsonChar x with
  | case8 x hcontrol => rw [if_pos hcontrol]; exact List.cons_ne_nil _ _
  | case9 x hcontrol => rw [if_neg hcontrol]; exact List.cons_ne_nil _ _
  | _ => exact List.cons_ne_nil _ _

/-- **A text is read back**, from behind its first quote. -/
theorem reads_text (s : String) (h : c.rest = (Document.jsonText s).tail ++ rest) :
    Reads c.text s rest := by
  have hrest : c.rest = s.toList.flatMap Document.jsonChar ++ '"' :: rest := by
    rw [h, Document.jsonText, List.cons_append, List.tail_cons, List.append_assoc]
    rfl
  have hfuel : s.toList.length < c.rest.length + 1 := by
    have hle := Text.length_le_flatMap fun x (_ : x ∈ s.toList) => jsonChar_ne_nil x
    rw [hrest, List.length_append]
    omega
  have hread := reads_textFrom s.toList [] (c.rest.length + 1) hfuel hrest
  rwa [List.reverse_nil, List.nil_append, String.ofList_toList] at hread

/-! ## Numbers -/

/-- A text that a number may stand before without going on in it. -/
def EndsNumber (s : List Char) : Prop :=
  ∀ x ∈ s.head?, Text.isDigit x = false ∧ x ≠ '.' ∧ x ≠ 'e' ∧ x ≠ 'E'

/-- Digits of which the number fits 64 bits are all read. -/
theorem digits_append {value n : Nat} {s : List Char} (count : Nat)
    (hs : Text.digitsValue value s = some n) (hmax : n ≤ Text.maxU64) (ends : EndsNumber rest) :
    digits value count (s ++ rest) = ⟨n, count + s.length, rest, false⟩ := by
  induction s generalizing value count with
  | nil =>
    have hn : value = n := by simpa [Text.digitsValue] using hs
    rw [List.nil_append, hn]
    cases rest with
    | nil => rfl
    | cons x more =>
      have hx : Text.digit? x = none := by simpa [Text.isDigit] using (ends x rfl).1
      rw [digits, hx]
      rfl
  | cons x s ih =>
    rw [Text.digitsValue] at hs
    cases hd : Text.digit? x with
    | none => rw [hd] at hs; cases hs
    | some d =>
      rw [hd] at hs
      -- the whole number fits, so what is read of it fits as well
      have hle : ¬ Text.maxU64 < value * 10 + d := by
        have hvalue := Text.le_of_digitsValue hs
        omega
      rw [List.cons_append, digits, hd]
      simp only [if_neg hle]
      rw [ih (count + 1) hs, List.length_cons, Nat.add_assoc, Nat.add_comm 1]

/-- A number that ends where its digits do is whole. -/
theorem reads_ending (positive : Bool) (significand : Nat) (ends : EndsNumber rest)
    (h : c.rest = rest) :
    Reads (number.ending positive c significand) (wholeNumber positive significand) rest := by
  refine ⟨c, h, ?_⟩
  rw [number.ending]
  split
  · next hpoint => exact absurd rfl (ends '.' (by rw [← h, hpoint]; rfl)).2.1
  · next he => exact absurd rfl (ends 'e' (by rw [← h, he]; rfl)).2.2.1
  · next he => exact absurd rfl (ends 'E' (by rw [← h, he]; rfl)).2.2.2
  · rfl

theorem reads_number (positive : Bool) {n : Nat} (hmax : n ≤ Text.maxU64) (ends : EndsNumber rest)
    (h : c.rest = Text.ofNat n ++ rest) :
    Reads (c.number positive) (wholeNumber positive n) rest := by
  -- a zero is alone; any other number begins with another digit
  rcases Nat.eq_zero_or_pos n with rfl | hpos
  · have hzero : c.rest = '0' :: rest := by
      rw [h, Text.ofNat, Text.digitsOf]
      rfl
    have hdigit : Text.digit? '0' = some 0 := by decide
    rw [number]
    simp only [hzero, hdigit]
    cases rest with
    | nil => exact reads_ending positive 0 ends (rest_past ..)
    | cons y more =>
      have hy : ¬ Text.isDigit y = true := by rw [(ends y rfl).1]; decide
      show Reads (if Text.isDigit y = true then _ else _) _ _
      rw [if_neg hy]
      exact reads_ending positive 0 ends (rest_past ..)
  · obtain ⟨x, d, more, hcons, hd, hdpos⟩ := Text.digitsOf_eq_cons [] hpos
    have hdigits : digits 0 0 c.rest = ⟨n, (Text.ofNat n).length, rest, false⟩ := by
      have hvalue : Text.digitsValue 0 (Text.ofNat n) = some n := Text.digitsValue_digitsOf [] n
      rw [h, digits_append 0 hvalue hmax ends, Nat.zero_add]
    have hx : c.rest = x :: (more ++ rest) := by
      rw [h, Text.ofNat, hcons, List.cons_append]
    rw [number]
    split
    · next hnil => rw [hx] at hnil; cases hnil
    · next y rest' hy =>
      rw [hx] at hy
      cases hy
      rw [hd]
      split
      · next hnone => cases hnone
      · next hzero => exact absurd (Option.some.inj hzero) (Nat.ne_of_gt hdpos)
      · simp only [hdigits]
        exact reads_ending positive n ends rfl

/-- **A whole number is read back.** -/
theorem reads_wholeNumberOf {t : IntType} (n : Whole t) (ends : EndsNumber rest)
    (h : c.rest = Text.ofInt n.val ++ rest) : Reads (c.wholeNumberOf t) n rest := by
  have hwhole (behind : Cursor) : narrow.whole behind t n.val = .ok (n, behind) := by
    rw [narrow.whole, Whole.ofInt?_val]
  have hlo : IntType.i64.lo ≤ n.val := Int.le_trans t.i64_lo_le n.lo_le
  have hhi : n.val ≤ Text.maxU64 := Int.le_trans n.le_hi t.hi_le
  -- a number below zero has its digits behind a minus
  cases hval : n.val with
  | ofNat k =>
    rw [hval] at h hwhole hhi
    have hmax : k ≤ Text.maxU64 := Int.ofNat_le.1 hhi
    obtain ⟨behind, hrest, hread⟩ := reads_number true hmax ends h
    obtain ⟨x, more, hx, hdigit⟩ := Text.ofNat_eq_cons k
    have hcons : c.rest = x :: (more ++ rest) := by rw [h, Text.ofInt, hx, List.cons_append]
    refine ⟨behind, hrest, ?_⟩
    rw [wholeNumberOf]
    split
    · next hminus =>
      rw [hcons] at hminus
      cases hminus
      exact absurd hdigit (by decide)
    · next y rest' _ hy =>
      rw [hcons] at hy
      cases hy
      rw [if_pos hdigit, hread]
      exact hwhole behind
    · next hnil => rw [hcons] at hnil; cases hnil
  | negSucc k =>
    rw [hval] at h hwhole hlo
    have hmax : k + 1 ≤ Text.maxI64 + 1 := by
      have hlow : -(0x8000000000000000 : Int) ≤ Int.negSucc k := hlo
      have hbound : Text.maxI64 + 1 = 0x8000000000000000 := rfl
      omega
    have hnext : c.next.rest = Text.ofNat (k + 1) ++ rest := by
      rw [rest_next, h, Text.ofInt, List.cons_append, List.tail_cons]
    have hbound : k + 1 ≤ Text.maxU64 := Nat.le_trans hmax (by decide)
    obtain ⟨behind, hrest, hread⟩ := reads_number false hbound ends hnext
    have hnegative : wholeNumber false (k + 1) = .negative (Int.negSucc k) := by
      rw [wholeNumber, if_neg (by decide), if_neg (Nat.succ_ne_zero k),
        if_neg (Nat.not_lt.2 hmax)]
      rfl
    refine ⟨behind, hrest, ?_⟩
    rw [wholeNumberOf, h, Text.ofInt, List.cons_append]
    simp only [hread, hnegative]
    exact hwhole behind

/-! ## Values -/

theorem isSpace_of_isDigit {x : Char} (h : Text.isDigit x = true) : isSpace x = false := by
  rw [Bool.eq_false_iff]
  intro hspace
  simp only [isSpace, Bool.or_eq_true, beq_iff_eq] at hspace
  rcases hspace with ((rfl | rfl) | rfl) | rfl <;> exact absurd h (by decide)

/-- What is written of a field does not begin with white space. -/
theorem jsonChars_eq_cons (l : Document.Layout) (t : FieldType) (x : t.Carrier) :
    ∃ y more, Document.jsonChars l (t.toDocument x) = y :: more ∧ isSpace y = false := by
  have hint (n : Int) : ∃ y more, Text.ofInt n = y :: more ∧ isSpace y = false := by
    cases n with
    | ofNat k =>
      obtain ⟨y, more, heq, hy⟩ := Text.ofNat_eq_cons k
      exact ⟨y, more, heq, isSpace_of_isDigit hy⟩
    | negSucc k => exact ⟨'-', Text.ofNat (k + 1), rfl, by decide⟩
  cases t with
  | text => exact ⟨'"', _, rfl, by decide⟩
  | flag => cases x <;> exact ⟨_, _, rfl, by decide⟩
  | int t => exact hint x.val
  | duration t => exact hint x.val

theorem ident_append (word : List Char) (h : c.rest = word ++ rest) :
    ∃ behind : Cursor, behind.rest = rest ∧ c.ident word = .ok behind := by
  induction word generalizing c with
  | nil => exact ⟨c, h, rfl⟩
  | cons x word ih =>
    obtain ⟨behind, hrest, hread⟩ := ih (c := c.past x (word ++ rest)) (rest_past ..)
    refine ⟨behind, hrest, ?_⟩
    rw [ident, h, List.cons_append]
    simp only [if_true]
    exact hread

theorem reads_valueOf (l : Document.Layout) (t : FieldType) (x : t.Carrier) (ends : EndsNumber rest)
    (h : c.rest = Document.jsonChars l (t.toDocument x) ++ rest) : Reads (c.valueOf t) x rest := by
  -- the first character tells which kind of value comes
  cases t with
  | text =>
    have hnext : c.next.rest = (Document.jsonText x).tail ++ rest := by
      rw [rest_next, h]
      rfl
    have hquote : c.rest = '"' :: ((Document.jsonText x).tail ++ rest) := h
    rw [valueOf, hquote]
    exact reads_text x hnext
  | flag =>
    cases x with
    | true =>
      have hword : c.rest = 't' :: ("rue".toList ++ rest) := h
      obtain ⟨behind, hrest, hread⟩ := ident_append (c := c.next) "rue".toList (by
        rw [rest_next, hword, List.tail_cons])
      rw [valueOf, hword]
      exact ⟨behind, hrest, by simp only [hread]; rfl⟩
    | false =>
      have hword : c.rest = 'f' :: ("alse".toList ++ rest) := h
      obtain ⟨behind, hrest, hread⟩ := ident_append (c := c.next) "alse".toList (by
        rw [rest_next, hword, List.tail_cons])
      rw [valueOf, hword]
      exact ⟨behind, hrest, by simp only [hread]; rfl⟩
  | int t => exact reads_wholeNumberOf x ends h
  | duration t => exact reads_wholeNumberOf x ends h

/-- **What is written of a field is read back,** with any white space before it. -/
theorem reads_fieldValue (l : Document.Layout) (t : FieldType) (x : t.Carrier) {blanks : List Char}
    (hblanks : blanks.all isSpace = true) (ends : EndsNumber rest)
    (h : c.rest = blanks ++ (Document.jsonChars l (t.toDocument x) ++ rest)) :
    Reads (c.fieldValue t) x rest := by
  obtain ⟨y, more, hcons, hy⟩ := jsonChars_eq_cons l t x
  rw [hcons, List.cons_append] at h
  have hrest := rest_skipSpace_of_blanks hblanks hy h
  rw [fieldValue, hrest]
  refine reads_valueOf l t x ends ?_
  rw [hrest, hcons, List.cons_append]

end Cursor

end RouterMenu.Json
