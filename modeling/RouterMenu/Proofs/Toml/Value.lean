import RouterMenu.Proofs.Toml.Text
import RouterMenu.Settings.Writer
import RouterMenu.Toml.Reader

/-!
# Values of settings files are read back

Texts, truth values and whole numbers are read back from the end of their line (`Stands`). A number
is tried as a date, a time and a double before it is taken for what it is, and all of these have to
fail: none of the marks that would make it one stands behind its digits.
-/

namespace RouterMenu.Toml

variable {ds rest : List Char}

/-! ## Numbers -/

/-- A number of some digits is not read beyond the end of its line. -/
theorem drop_of_digits {n lo hi v : Nat} {t : List Char}
    (h : digits n lo hi (ds ++ '\n' :: rest) = some (v, t)) : t = ds.drop n ++ '\n' :: rest := by
  rw [digits] at h
  simp only [bind, Option.bind] at h
  split at h
  · cases h
  · split at h
    · cases h
    · next value hvalue =>
      have hdigits := Text.isNumeral_iff.2 ⟨value, hvalue⟩
      simp only [Text.isNumeral, Bool.and_eq_true, List.all_eq_true] at hdigits
      -- otherwise the end of the line would be among the digits
      have hle : n ≤ ds.length := by
        by_contra hlt
        have hmem : '\n' ∈ (ds ++ '\n' :: rest).take n := by
          rw [List.append_cons, List.take_append, List.take_of_length_le]
          · simp
          · rw [List.length_append, List.length_singleton]
            omega
        exact absurd (hdigits.2 _ hmem) (by decide)
      simp only at h
      split at h
      · cases h
        exact List.drop_append_of_le_length hle
      · cases h

/-- What stands behind digits up to the end of their line is no mark. -/
theorem behind_digits {mark : Char} (hmark : Text.isDigit mark = false) (hline : mark ≠ '\n')
    (hds : ∀ c ∈ ds, Text.isDigit c = true) : behind mark (ds ++ '\n' :: rest) = none := by
  cases ds with
  | nil => exact if_neg (Ne.symm hline)
  | cons d ds =>
    have hne : d ≠ mark := by
      rintro rfl
      rw [hds d (List.mem_cons_self ..)] at hmark
      cases hmark
    exact if_neg hne

/-- Digits alone are no date and no time: the first mark is missing. -/
theorem moment_digits (hds : ∀ c ∈ ds, Text.isDigit c = true) :
    moment (ds ++ '\n' :: rest) = none := by
  have hdrop (n : Nat) : ∀ c ∈ ds.drop n, Text.isDigit c = true :=
    fun c hc => hds c (List.mem_of_mem_drop hc)
  -- a date needs a dash behind its year, and there are only digits
  have hdate : date (ds ++ '\n' :: rest) = none := by
    rw [date]
    cases hyear : digits 4 0 9999 (ds ++ '\n' :: rest) with
    | none => rfl
    | some found =>
      obtain ⟨year, t⟩ := found
      obtain rfl := drop_of_digits hyear
      have hmark : behind '-' (ds.drop 4 ++ '\n' :: rest) = none :=
        behind_digits (by decide) (by decide) (hdrop 4)
      simp only [bind, Option.bind, hmark]
  -- likewise a time, which needs a colon
  have htime : time (ds ++ '\n' :: rest) = none := by
    rw [time]
    cases hhour : digits 2 0 23 (ds ++ '\n' :: rest) with
    | none => rfl
    | some found =>
      obtain ⟨hour, t⟩ := found
      obtain rfl := drop_of_digits hhour
      have hmark : behind ':' (ds.drop 2 ++ '\n' :: rest) = none :=
        behind_digits (by decide) (by decide) (hdrop 2)
      simp only [bind, Option.bind, hmark]
  rw [moment, hdate, htime]
  rfl

/-- A run of digits ends with its line. -/
theorem run_digits (hds : ∀ c ∈ ds, Text.isDigit c = true) :
    run Text.isDigit (ds ++ '\n' :: rest) = some (ds, '\n' :: rest) := by
  induction ds with
  | nil => rfl
  | cons d ds ih =>
    rw [List.forall_mem_cons] at hds
    have hunderscore : d ≠ '_' := by
      rintro rfl
      exact absurd hds.1 (by decide)
    rw [List.cons_append]
    -- neither an underscore nor anything else comes between the digits
    unfold run
    split
    · next h => exact absurd (List.cons.inj h).1 hunderscore
    · next h => exact absurd (List.cons.inj h).1 hunderscore
    · next h =>
      cases h
      rw [if_pos hds.1, ih hds.2]
      rfl
    · next h => cases h

theorem isDigit_of_mem_ofNat {n : Nat} : ∀ c ∈ Text.ofNat n, Text.isDigit c = true := by
  have hnumeral := Text.isNumeral_ofNat n
  rw [Text.isNumeral, Bool.and_eq_true, List.all_eq_true] at hnumeral
  exact hnumeral.2

theorem sign_of_isDigit {x : Char} (h : Text.isDigit x = true) (more : List Char) :
    sign (x :: more) = ([], x :: more) := by
  unfold sign
  split
  · next heq =>
    rw [(List.cons.inj heq).1] at h
    exact absurd h (by decide)
  · next heq =>
    rw [(List.cons.inj heq).1] at h
    exact absurd h (by decide)
  · rfl

/-- The whole part of a number is all of it. -/
theorem whole_ofNat (n : Nat) :
    whole (Text.ofNat n ++ '\n' :: rest) = some (Text.ofNat n, '\n' :: rest) := by
  -- a zero is alone; any other number begins with another digit
  rcases Nat.eq_zero_or_pos n with rfl | hpos
  · have hzero : Text.ofNat 0 = ['0'] := by
      rw [Text.ofNat, Text.digitsOf]
      rfl
    rw [hzero]
    rfl
  · have hrun : run Text.isDigit (Text.ofNat n ++ '\n' :: rest)
        = some (Text.ofNat n, '\n' :: rest) :=
      run_digits isDigit_of_mem_ofNat
    obtain ⟨x, d, more, hx, hdigit, hd⟩ := Text.digitsOf_eq_cons [] hpos
    have hisDigit : Text.isDigit x = true := by rw [Text.isDigit, hdigit]; rfl
    rw [Text.ofNat, hx, List.cons_append] at hrun ⊢
    have hzero : x ≠ '0' := by
      rintro rfl
      have heq : some 0 = some d := hdigit
      cases heq
      exact absurd hd (by decide)
    unfold whole
    rw [sign_of_isDigit hisDigit]
    simp only
    split
    · next heq => exact absurd (List.cons.inj heq).1 hzero
    · rw [digitRun, if_pos hisDigit, hrun]
      rfl

/-- No mark of another base stands behind the first digit of a number. -/
theorem ofNat_append_ne {n : Nat} {x mark : Char} {more : List Char}
    (hmark : Text.isDigit mark = false) (hline : mark ≠ '\n') :
    Text.ofNat n ++ '\n' :: rest ≠ x :: mark :: more := by
  intro h
  obtain ⟨d, digits, hd, -⟩ := Text.ofNat_eq_cons n
  rw [hd, List.cons_append] at h
  have htail := (List.cons.inj h).2
  cases digits with
  | nil => exact hline (List.cons.inj htail).1.symm
  | cons d' digits =>
    have hmem : mark ∈ Text.ofNat n := by
      rw [hd, ← (List.cons.inj htail).1]
      simp
    exact Text.not_mem_ofNat hmark n hmem

/-- **A number is read back.** -/
theorem numeric_ofNat {n : Nat} (hn : n ≤ Text.maxI64) :
    numeric (Text.ofNat n ++ '\n' :: rest) = some (.int n, '\n' :: rest) := by
  -- nothing that is tried before a whole number is found in digits alone
  have hdecimal : decimal (Text.ofNat n ++ '\n' :: rest) = none := by
    rw [decimal, whole_ofNat]
    rfl
  have hnamed : named (Text.ofNat n ++ '\n' :: rest) = none := by
    obtain ⟨x, more, hx, hdigit⟩ := Text.ofNat_eq_cons n
    rw [hx, List.cons_append, named, sign_of_isDigit hdigit]
    simp only [List.take_succ_cons]
    split
    · next h =>
      rw [(List.cons.inj h).1] at hdigit
      exact absurd hdigit (by decide)
    · next h =>
      rw [(List.cons.inj h).1] at hdigit
      exact absurd hdigit (by decide)
    · rfl
  have hint : int (Text.ofNat n ++ '\n' :: rest) = some ((n : Int), '\n' :: rest) := by
    have hvalue : Text.i64? (Text.ofNat n) = some (n : Int) :=
      Text.intWithin?_ofNat (by omega) (by omega)
    unfold int
    split
    · next h => exact absurd h (ofNat_append_ne (by decide) (by decide))
    · next h => exact absurd h (ofNat_append_ne (by decide) (by decide))
    · next h => exact absurd h (ofNat_append_ne (by decide) (by decide))
    · rw [whole_ofNat]
      simp only [bind, Option.bind, hvalue]
  rw [numeric, moment_digits isDigit_of_mem_ofNat, float, hdecimal, hnamed, hint]
  rfl

/-! ## Values -/

/-- What is written of a value is read back from the end of its line. -/
def Stands (written : List Char) (item : Item) : Prop :=
  (∃ x more, written = x :: more ∧ isSpace x = false) ∧ ∀ depth fuel rest,
    value depth (fuel + 1) (written ++ '\n' :: rest) = some (item, '\n' :: rest)

/-- A value that begins with no bracket and no brace holds no other. -/
theorem value_eq_scalar {x : Char} (hx : x ≠ '[' ∧ x ≠ '\x7b') (depth fuel : Nat)
    (more : List Char) : value depth (fuel + 1) (x :: more) = scalar (x :: more) := by
  unfold value
  split
  · next h => exact absurd (List.cons.inj h).1 hx.1
  · next h => exact absurd (List.cons.inj h).1 hx.2
  · rfl

theorem stands_text (t : String) : Stands (writeText t) (.text t) := by
  obtain ⟨q, body, hwritten, hread⟩ := text_writeText t
  refine ⟨⟨q.char, body, hwritten, by cases q <;> decide⟩, fun depth fuel rest => ?_⟩
  -- behind the text the line ends, which closes it in all kinds of quotes
  have hrest : ∀ q : Quotes, ('\n' :: rest).head? ≠ some q.char := by
    intro q
    cases q <;> exact fun h => by cases h
  have hbody := hread _ hrest
  rw [hwritten, List.cons_append, value_eq_scalar (by cases q <;> decide)]
  cases q with
  | double =>
    show scalar ('"' :: _) = _
    rw [scalar, hbody]
    rfl
  | single =>
    show scalar ('\x27' :: _) = _
    rw [scalar, hbody]
    rfl

theorem stands_flag (b : Bool) : Stands (Settings.writeFlag b) (.flag b) := by
  cases b with
  | true => exact ⟨⟨'t', _, rfl, rfl⟩, fun depth fuel rest => value_eq_scalar (by decide) ..⟩
  | false => exact ⟨⟨'f', _, rfl, rfl⟩, fun depth fuel rest => value_eq_scalar (by decide) ..⟩

theorem scalar_of_isDigit {x : Char} (h : Text.isDigit x = true) (more : List Char) :
    scalar (x :: more) = numeric (x :: more) := by
  have hne {mark : Char} (hmark : Text.isDigit mark = false) : x ≠ mark := by
    rintro rfl
    rw [h] at hmark
    cases hmark
  unfold scalar
  split
  · next heq => exact absurd (List.cons.inj heq).1 (hne (by decide))
  · next heq => exact absurd (List.cons.inj heq).1 (hne (by decide))
  · next heq => exact absurd (List.cons.inj heq).1 (hne (by decide))
  · next heq => exact absurd (List.cons.inj heq).1 (hne (by decide))
  · rfl

theorem stands_ofNat {n : Nat} (hn : n ≤ Text.maxI64) : Stands (Text.ofNat n) (.int n) := by
  obtain ⟨x, more, hx, hdigit⟩ := Text.ofNat_eq_cons n
  have hne {mark : Char} (hmark : Text.isDigit mark = false) : x ≠ mark := by
    rintro rfl
    rw [hdigit] at hmark
    cases hmark
  have hspace : isSpace x = false := by
    rw [isSpace, Bool.or_eq_false_iff, beq_eq_false_iff_ne, beq_eq_false_iff_ne]
    exact ⟨hne (by decide), hne (by decide)⟩
  refine ⟨⟨x, more, hx, hspace⟩, fun depth fuel rest => ?_⟩
  have hread : numeric (Text.ofNat n ++ '\n' :: rest) = some (.int n, '\n' :: rest) :=
    numeric_ofNat hn
  rw [hx, List.cons_append] at hread ⊢
  rw [value_eq_scalar ⟨hne (by decide), hne (by decide)⟩, scalar_of_isDigit hdigit, hread]

end RouterMenu.Toml
