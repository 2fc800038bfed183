import RouterMenu.Text.Numeral
import RouterMenu.Text.Cut

/-!
# Numerals are read back

The digits of a number are read back as the number, on top of which reading may go on with more
digits (`digitsValue_digitsOf`). Whatever bounds a reader has, a number within them survives being
written and read, with its sign (`intWithin?_ofInt`). What is no digit stands in no numeral, so a
numeral is not cut at a letter or a colon.

A reader takes nothing for a number but digits, with a plus sign before them where it allows one
(`natUpTo?_eq_some_iff`), and text is cut at the first place where the character is
(`cut_eq_some_iff`), or at the last one (`cutLast_eq_some_iff`).
-/

namespace RouterMenu.Text

/-! ## Digits -/

theorem digit?_ofNat {d : Nat} (h : d < 10) : digit? (Char.ofNat ('0'.toNat + d)) = some d := by
  have hall : ∀ d, d < 10 → digit? (Char.ofNat ('0'.toNat + d)) = some d := by decide
  exact hall d h

/-- The digits of a number bring it in, whatever is read behind them. -/
theorem digitsValue_digitsOf (acc : List Char) (n : Nat) :
    digitsValue 0 (digitsOf acc n) = digitsValue n acc := by
  fun_induction digitsOf acc n with
  | case1 acc n acc' hlt =>
    have hd : n % 10 < 10 := Nat.mod_lt _ (by decide)
    simp only [acc', digitsValue, digit?_ofNat hd]
    rw [Nat.zero_mul, Nat.zero_add, Nat.mod_eq_of_lt hlt]
  | case2 acc n acc' hge ih =>
    have hd : n % 10 < 10 := Nat.mod_lt _ (by decide)
    rw [ih]
    simp only [acc', digitsValue, digit?_ofNat hd]
    rw [Nat.mul_comm, Nat.div_add_mod]

theorem digitsOf_ne_nil (acc : List Char) (n : Nat) : digitsOf acc n ≠ [] := by
  fun_induction digitsOf acc n with
  | case1 acc n acc' hlt => simp [acc']
  | case2 acc n acc' hge ih => exact ih

/-- **A number is read back from its numeral.** -/
theorem numeral?_ofNat (n : Nat) : numeral? (ofNat n) = some n := by
  have hne : (ofNat n).isEmpty = false := by simp [ofNat, digitsOf_ne_nil]
  rw [numeral?, hne]
  exact digitsValue_digitsOf [] n

/-- No zero stands before the other digits of a number. -/
theorem digitsOf_eq_cons (acc : List Char) {n : Nat} (h : 0 < n) :
    ∃ x d more, digitsOf acc n = x :: more ∧ digit? x = some d ∧ 0 < d := by
  fun_induction digitsOf acc n with
  | case1 acc n acc' hlt =>
    have hd : n % 10 < 10 := Nat.mod_lt _ (by decide)
    exact ⟨_, n % 10, acc, rfl, digit?_ofNat hd, by omega⟩
  | case2 acc n acc' hge ih => exact ih (by omega)

/-- The digits behind others make the number no less. -/
theorem le_of_digitsValue {acc n : Nat} {s : List Char} (h : digitsValue acc s = some n) :
    acc ≤ n := by
  induction s generalizing acc with
  | nil =>
    have heq : acc = n := by simpa [digitsValue] using h
    exact Nat.le_of_eq heq
  | cons c rest ih =>
    rw [digitsValue] at h
    cases hd : digit? c with
    | none => rw [hd] at h; cases h
    | some d =>
      rw [hd] at h
      have hle := ih h
      omega

theorem isSome_digitsValue (acc : Nat) (s : List Char) :
    (digitsValue acc s).isSome = s.all isDigit := by
  induction s generalizing acc with
  | nil => rfl
  | cons c rest ih =>
    rw [digitsValue, List.all_cons, isDigit]
    cases digit? c with
    | none => rfl
    | some d => simp [ih]

/-- Digits and nothing else stand for a number. -/
theorem isNumeral_iff {s : List Char} : isNumeral s = true ↔ ∃ n, numeral? s = some n := by
  rw [← Option.isSome_iff_exists, numeral?, isNumeral]
  cases hs : s.isEmpty with
  | true => simp
  | false => simp [isSome_digitsValue]

theorem isNumeral_ofNat (n : Nat) : isNumeral (ofNat n) = true :=
  isNumeral_iff.2 ⟨n, numeral?_ofNat n⟩

theorem ofNat_eq_cons (n : Nat) : ∃ x more, ofNat n = x :: more ∧ isDigit x = true := by
  obtain ⟨x, more, hx⟩ := List.exists_cons_of_ne_nil (digitsOf_ne_nil [] n)
  have hdigits := isNumeral_ofNat n
  rw [ofNat, hx, isNumeral, Bool.and_eq_true, List.all_cons, Bool.and_eq_true] at hdigits
  exact ⟨x, more, hx, hdigits.2.1⟩

/-- What is no digit stands in no numeral. -/
theorem not_mem_ofNat {c : Char} (h : isDigit c = false) (n : Nat) : c ∉ ofNat n := by
  intro hc
  have hall := isNumeral_ofNat n
  simp only [isNumeral, Bool.and_eq_true, List.all_eq_true] at hall
  rw [hall.2 c hc] at h
  simp at h

/-! ## What digits stand for -/

/-- The number that a run of digits stands for. -/
def numberOf (digits : List Char) : Nat := Nat.ofDigitChars 10 digits 0

theorem digit?_eq_some {c : Char} {d : Nat} (h : digit? c = some d) : d = c.toNat - '0'.toNat := by
  unfold digit? at h
  split at h
  · exact (Option.some.inj h).symm
  · simp at h

theorem digit?_of_isDigit {c : Char} (h : isDigit c = true) :
    digit? c = some (c.toNat - '0'.toNat) := by
  obtain ⟨d, hd⟩ := Option.isSome_iff_exists.1 h
  rw [hd, digit?_eq_some hd]

theorem digit?_of_not_isDigit {c : Char} (h : isDigit c = false) : digit? c = none := by
  simpa [isDigit] using h

theorem isDigit_iff {c : Char} : isDigit c = true ↔ 48 ≤ c.toNat ∧ c.toNat ≤ 57 := by
  have hrange : ('0' ≤ c ∧ c ≤ '9') ↔ 48 ≤ c.toNat ∧ c.toNat ≤ 57 := Iff.rfl
  unfold isDigit digit?
  split
  · next h => simpa using hrange.1 h
  · next h => simpa [hrange] using h

/-- More digits do not make a number less. -/
theorem le_ofDigitChars (s : List Char) (n : Nat) : n ≤ Nat.ofDigitChars 10 s n := by
  induction s generalizing n with
  | nil => exact Nat.le_refl n
  | cons c s ih =>
    have hle := ih (10 * n + (c.toNat - '0'.toNat))
    rw [Nat.ofDigitChars_cons]
    omega

/-- Digits are read as the number they stand for, on top of those before them. -/
theorem digitsValue_of_all {s : List Char} (h : ∀ c ∈ s, isDigit c = true) (acc : Nat) :
    digitsValue acc s = some (Nat.ofDigitChars 10 s acc) := by
  induction s generalizing acc with
  | nil => rfl
  | cons c rest ih =>
    rw [List.forall_mem_cons] at h
    obtain ⟨hc, hrest⟩ := h
    simp only [digitsValue, digit?_of_isDigit hc]
    rw [ih hrest, Nat.ofDigitChars_cons, Nat.mul_comm]

/-- **A numeral is read as the number of its digits**, and other text as none. -/
theorem numeral?_eq_some_iff {s : List Char} {n : Nat} :
    numeral? s = some n ↔ isNumeral s = true ∧ n = numberOf s := by
  by_cases hs : isNumeral s = true
  · have hparts := hs
    rw [isNumeral, Bool.and_eq_true, Bool.not_eq_true', List.all_eq_true] at hparts
    obtain ⟨hne, hall⟩ := hparts
    have hvalue := digitsValue_of_all hall 0
    simp [numeral?, hne, hvalue, hs, numberOf, eq_comm]
  · have hnone : ∀ n, numeral? s ≠ some n := fun n hn => hs (isNumeral_iff.2 ⟨n, hn⟩)
    simp [hs, hnone]

/-! ## Bounds and signs -/

/-- A numeral begins with a digit, and so with no sign. -/
theorem ofNat_ne_cons {c : Char} (h : isDigit c = false) (n : Nat) (rest : List Char) :
    ofNat n ≠ c :: rest := by
  intro hs
  have hmem := not_mem_ofNat h n
  rw [hs] at hmem
  exact hmem (List.mem_cons_self ..)

theorem natUpTo?_ofNat {max n : Nat} (h : n ≤ max) : natUpTo? max (ofNat n) = some n := by
  unfold natUpTo?
  split
  · next rest hs => exact absurd hs (ofNat_ne_cons (by decide) n _)
  · simp only [numeral?_ofNat, if_pos h]

theorem intWithin?_ofNat {lo hi : Int} {n : Nat} (hlo : lo ≤ n) (hhi : n ≤ hi) :
    intWithin? lo hi (ofNat n) = some (n : Int) := by
  unfold intWithin?
  split
  · next rest hs => exact absurd hs (ofNat_ne_cons (by decide) n _)
  · next rest hs => exact absurd hs (ofNat_ne_cons (by decide) n _)
  · simp [numeral?_ofNat, hlo, hhi]

theorem intWithin?_minus_ofNat {lo hi : Int} {n : Nat} (hlo : lo ≤ -n) (hhi : -n ≤ hi) :
    intWithin? lo hi ('-' :: ofNat n) = some (-n : Int) := by
  simp [intWithin?, numeral?_ofNat, hlo, hhi]

/-- **An integer within the bounds is read back.** -/
theorem intWithin?_ofInt {lo hi n : Int} (hlo : lo ≤ n) (hhi : n ≤ hi) :
    intWithin? lo hi (ofInt n) = some n := by
  cases n with
  | ofNat k => exact intWithin?_ofNat hlo hhi
  | negSucc k => exact intWithin?_minus_ofNat hlo hhi

theorem natUpTo?_of_isNumeral {max : Nat} {s : List Char} (h : isNumeral s = true) :
    natUpTo? max s = if numberOf s ≤ max then some (numberOf s) else none := by
  have hvalue : numeral? s = some (numberOf s) := numeral?_eq_some_iff.2 ⟨h, rfl⟩
  unfold natUpTo?
  split
  · -- a numeral has no sign
    simp [isNumeral, isDigit, digit?] at h
  · simp only [hvalue]

theorem natUpTo?_plus (max : Nat) {digits : List Char} (h : isNumeral digits = true) :
    natUpTo? max ('+' :: digits) = natUpTo? max digits := by
  have hvalue : numeral? digits = some (numberOf digits) := numeral?_eq_some_iff.2 ⟨h, rfl⟩
  rw [natUpTo?_of_isNumeral h]
  simp only [natUpTo?, hvalue]

/-- Digits within a bound, with a plus sign before them or without, and the number they stand
for. -/
def Counts (max : Nat) (s : List Char) (n : Nat) : Prop :=
  ∃ digits, (s = digits ∨ s = '+' :: digits) ∧ isNumeral digits = true ∧ n = numberOf digits
    ∧ n ≤ max

/-- **A number within a bound is read from its digits**, and from nothing else. -/
theorem natUpTo?_eq_some_iff {max n : Nat} {s : List Char} :
    natUpTo? max s = some n ↔ Counts max s n := by
  constructor
  · intro h
    -- the digits are what is left without the sign
    obtain ⟨digits, hs, hdigits⟩ : ∃ digits, (s = digits ∨ s = '+' :: digits)
        ∧ ∃ m, numeral? digits = some m ∧ (if m ≤ max then some m else none) = some n := by
      unfold natUpTo? at h
      split at h
      · next digits =>
        cases hd : numeral? digits with
        | none => simp [hd] at h
        | some m => exact ⟨digits, .inr rfl, m, hd, by simpa only [hd] using h⟩
      · cases hd : numeral? s with
        | none => simp [hd] at h
        | some m => exact ⟨s, .inl rfl, m, hd, by simpa only [hd] using h⟩
    obtain ⟨m, hm, hread⟩ := hdigits
    obtain ⟨hnumeral, rfl⟩ := numeral?_eq_some_iff.1 hm
    split at hread
    · next hle =>
      cases hread
      exact ⟨digits, hs, hnumeral, rfl, hle⟩
    · simp at hread
  · rintro ⟨digits, hs, hnumeral, rfl, hle⟩
    have hread : natUpTo? max digits = some (numberOf digits) := by
      rw [natUpTo?_of_isNumeral hnumeral, if_pos hle]
    rcases hs with rfl | rfl
    · exact hread
    · rw [natUpTo?_plus max hnumeral, hread]

/-- There are digits in a number, and perhaps a plus sign. -/
theorem Counts.not_mem {max n : Nat} {s : List Char} (h : Counts max s n) {c : Char}
    (hdigit : isDigit c = false) (hplus : c ≠ '+') : c ∉ s := by
  obtain ⟨digits, hs, hnumeral, -, -⟩ := h
  rw [isNumeral, Bool.and_eq_true, List.all_eq_true] at hnumeral
  have hnot : c ∉ digits := by
    intro hc
    rw [hnumeral.2 c hc] at hdigit
    simp at hdigit
  rcases hs with rfl | rfl
  · exact hnot
  · simp [hplus, hnot]

/-! ## Cuts -/

/-- Text is not cut at a character that is not in it. -/
theorem cut_of_not_mem {c : Char} {s : List Char} (h : c ∉ s) : cut c s = none := by
  induction s with
  | nil => rfl
  | cons x rest ih =>
    rw [List.mem_cons, not_or] at h
    obtain ⟨hx, hrest⟩ := h
    rw [cut, if_neg (Ne.symm hx), ih hrest]
    rfl

/-- Text is cut behind what the character is not in. -/
theorem cut_append {c : Char} {before : List Char} (h : c ∉ before) (after : List Char) :
    cut c (before ++ c :: after) = some (before, after) := by
  induction before with
  | nil => simp [cut]
  | cons x rest ih =>
    rw [List.mem_cons, not_or] at h
    obtain ⟨hx, hrest⟩ := h
    rw [List.cons_append, cut, if_neg (Ne.symm hx), ih hrest]
    rfl

theorem pieces_ne_nil (c : Char) (s : List Char) : pieces c s ≠ [] := by
  cases s with
  | nil => exact List.cons_ne_nil _ _
  | cons x s =>
    rw [pieces]
    split
    · exact List.cons_ne_nil _ _
    · split <;> exact List.cons_ne_nil _ _

theorem cut_eq_none_iff {c : Char} {s : List Char} : cut c s = none ↔ c ∉ s := by
  refine ⟨fun h => ?_, cut_of_not_mem⟩
  induction s with
  | nil => simp
  | cons x rest ih =>
    rw [cut] at h
    split at h
    · simp at h
    · next hx =>
      rw [Option.map_eq_none_iff] at h
      simp [ih h, Ne.symm hx]

/-- **Text is cut at the first place where the character is**, and nowhere else. -/
theorem cut_eq_some_iff {c : Char} {s before after : List Char} :
    cut c s = some (before, after) ↔ s = before ++ c :: after ∧ c ∉ before := by
  constructor
  · intro h
    induction s generalizing before with
    | nil => simp [cut] at h
    | cons x rest ih =>
      rw [cut] at h
      split at h
      · next hx =>
        cases h
        simp [hx]
      · next hx =>
        obtain ⟨⟨before', after'⟩, hcut, heq⟩ := Option.map_eq_some_iff.1 h
        cases heq
        -- this character is not the one, so the cut is in the rest
        obtain ⟨rfl, hnot⟩ := ih hcut
        simp [hnot, Ne.symm hx]
  · rintro ⟨rfl, h⟩
    exact cut_append h after

/-- **Text is cut at the last place where the character is**, and nowhere else. -/
theorem cutLast_eq_some_iff {c : Char} {s before after : List Char} :
    cutLast c s = some (before, after) ↔ s = before ++ c :: after ∧ c ∉ after := by
  rw [cutLast, Option.map_eq_some_iff]
  constructor
  · rintro ⟨⟨after', before'⟩, hcut, heq⟩
    cases heq
    obtain ⟨hs, hnot⟩ := cut_eq_some_iff.1 hcut
    refine ⟨?_, by rwa [List.mem_reverse]⟩
    rw [← List.reverse_reverse s, hs]
    simp
  · rintro ⟨rfl, hnot⟩
    have hreverse : (before ++ c :: after).reverse = after.reverse ++ c :: before.reverse := by simp
    have hcut : cut c (after.reverse ++ c :: before.reverse)
        = some (after.reverse, before.reverse) := cut_append (by simpa using hnot) _
    exact ⟨(after.reverse, before.reverse), by rw [hreverse, hcut], by simp⟩

/-- The first piece is what stands before the first place where the character is. -/
theorem pieces_eq_cut (c : Char) (s : List Char) :
    pieces c s = match cut c s with
      | none => [s]
      | some (before, after) => before :: pieces c after := by
  induction s with
  | nil => rfl
  | cons x rest ih =>
    rw [pieces, cut]
    split
    · rfl
    · rw [ih]
      cases cut c rest with
      | none => rfl
      | some parts => rfl

/-- Text is a piece of its own if the character is not in it. -/
theorem pieces_eq_singleton_iff {c : Char} {s piece : List Char} :
    pieces c s = [piece] ↔ s = piece ∧ c ∉ s := by
  rw [pieces_eq_cut]
  cases hcut : cut c s with
  | none => simp [cut_eq_none_iff.1 hcut]
  | some parts =>
    obtain ⟨before, after⟩ := parts
    obtain ⟨rfl, -⟩ := cut_eq_some_iff.1 hcut
    simp [pieces_ne_nil]

/-- **The first piece ends at the character**, and the others are those of what is left. -/
theorem pieces_eq_cons_iff {c : Char} {s piece next : List Char} {more : List (List Char)} :
    pieces c s = piece :: next :: more
      ↔ ∃ rest, s = piece ++ c :: rest ∧ c ∉ piece ∧ pieces c rest = next :: more := by
  constructor
  · intro h
    rw [pieces_eq_cut] at h
    split at h
    · simp at h
    · next before after hcut =>
      obtain ⟨rfl, hnot⟩ := cut_eq_some_iff.1 hcut
      rw [List.cons.injEq] at h
      obtain ⟨rfl, hrest⟩ := h
      exact ⟨after, rfl, hnot, hrest⟩
  · rintro ⟨rest, rfl, hnot, hrest⟩
    rw [pieces_eq_cut, cut_append hnot]
    simp only [hrest]

/-! ## Lengths -/

/-- Text is no longer than what is written of it, if something is written of every character. -/
theorem length_le_flatMap {w : Char → List Char} {s : List Char} (hw : ∀ c ∈ s, w c ≠ []) :
    s.length ≤ (s.flatMap w).length := by
  induction s with
  | nil => exact Nat.le_refl _
  | cons c s ih =>
    rw [List.forall_mem_cons] at hw
    have hpos := List.length_pos_iff.2 hw.1
    have hle := ih hw.2
    rw [List.flatMap_cons, List.length_append, List.length_cons]
    omega

end RouterMenu.Text
