import Mathlib.Algebra.Group.Nat.Defs
import RouterMenu.Proofs.Text.Numeral
import RouterMenu.Record.Duration

/-!
# Spans of time given with units

A span such as `4h 30.5min` is a list of quantities, each a number with the word of its unit, and it
lasts as long as they do together. Blanks may stand between the quantities, among the digits of a
number, and in front of it all. `Quantity` has the parts of one as they are written, and
`Quantity.sum` is the span they come to, if 64 bits hold everything on the way.

The reader goes over the text once, character by character. Forward, it takes a quantity for what it
adds (`Quantity.readOn_text`); backward, what stands behind the place it has reached is always the
rest of a quantity and more of them (`behind_of_readOn`). Both together say which texts are read and
as what (`units?_eq_some_iff`).
-/

namespace RouterMenu.Duration

open Text

/-! ## Kinds of characters -/

theorem isUnitLetter_iff {c : Char} :
    isUnitLetter c = true
      ↔ (97 ≤ c.toNat ∧ c.toNat ≤ 122) ∨ (65 ≤ c.toNat ∧ c.toNat ≤ 90) ∨ c.toNat = 181 := by
  have hsmall : ('a' ≤ c ∧ c ≤ 'z') ↔ 97 ≤ c.toNat ∧ c.toNat ≤ 122 := Iff.rfl
  have hlarge : ('A' ≤ c ∧ c ≤ 'Z') ↔ 65 ≤ c.toNat ∧ c.toNat ≤ 90 := Iff.rfl
  have hmicro : c = 'µ' ↔ c.toNat = 181 :=
    ⟨fun h => h ▸ rfl, fun h => Char.toNat_inj.1 h⟩
  simp only [isUnitLetter, Bool.or_eq_true, Bool.and_eq_true, decide_eq_true_eq, beq_iff_eq,
    hsmall, hlarge, hmicro, or_assoc]

theorem isBlank_iff {c : Char} :
    isBlank c = true ↔ (9 ≤ c.toNat ∧ c.toNat ≤ 13) ∨ c.toNat = 0x20 ∨ c.toNat = 0x85
      ∨ c.toNat = 0xA0 ∨ c.toNat = 0x1680 ∨ (0x2000 ≤ c.toNat ∧ c.toNat ≤ 0x200A)
      ∨ c.toNat = 0x2028 ∨ c.toNat = 0x2029 ∨ c.toNat = 0x202F ∨ c.toNat = 0x205F
      ∨ c.toNat = 0x3000 := by
  simp only [isBlank, Bool.or_eq_true, Bool.and_eq_true, decide_eq_true_eq, beq_iff_eq, or_assoc]

/-- No blank is a digit. -/
theorem isDigit_of_isBlank {c : Char} (h : isBlank c = true) : isDigit c = false := by
  rw [isBlank_iff] at h
  rw [Bool.eq_false_iff, Ne, isDigit_iff]
  omega

/-- No letter of a unit is a digit or a blank. -/
theorem isDigit_of_isUnitLetter {c : Char} (h : isUnitLetter c = true) : isDigit c = false := by
  rw [isUnitLetter_iff] at h
  rw [Bool.eq_false_iff, Ne, isDigit_iff]
  omega

theorem isBlank_of_isUnitLetter {c : Char} (h : isUnitLetter c = true) : isBlank c = false := by
  rw [isUnitLetter_iff] at h
  rw [Bool.eq_false_iff, Ne, isBlank_iff]
  omega

/-! ## Quantities -/

/-- A digit, or a blank that does not count among digits. -/
def isLoose (c : Char) : Bool := isDigit c || isBlank c

/-- A number and the word of its unit as they are written, such as `4h`, `30.5 min ` and
`1 000ms`. -/
structure Quantity where
  /-- The first digit. -/
  first : Char
  /-- The digits behind it, among blanks. -/
  more : List Char
  /-- The digits behind the point, if there is one. -/
  decimals? : Option (List Char)
  word : List Char
  /-- The blanks behind it. -/
  gap : List Char
  isDigit_first : isDigit first = true
  loose_more : ∀ c ∈ more, isLoose c = true
  loose_decimals : ∀ ds ∈ decimals?, ∀ c ∈ ds, isLoose c = true
  digit_decimals : ∀ ds ∈ decimals?, ∃ c ∈ ds, isDigit c = true
  word_ne_nil : word ≠ []
  letter_word : ∀ c ∈ word, isUnitLetter c = true
  blank_gap : ∀ c ∈ gap, isBlank c = true

namespace Quantity

/-- The point and what stands behind it. -/
def pointed : Option (List Char) → List Char
  | none => []
  | some ds => '.' :: ds

/-- The quantity as it is written. -/
def text (q : Quantity) : List Char := q.first :: (q.more ++ pointed q.decimals? ++ q.word ++ q.gap)

/-- The number before the point. -/
def count (q : Quantity) : Nat := numberOf (q.first :: q.more.filter isDigit)

/-- Digits behind the point, as a fraction. -/
def fractionOf (ds : List Char) : Fraction :=
  ⟨numberOf (ds.filter isDigit), 10 ^ (ds.filter isDigit).length⟩

/-- The number behind the point. -/
def fraction? (q : Quantity) : Option Fraction := q.decimals?.map fractionOf

/-- The span with the quantity added to it, if 64 bits hold all there is to it. -/
def addTo (total : Span) (q : Quantity) : Option Span :=
  if q.count ≤ maxU64 ∧ ∀ f ∈ q.fraction?, f.denominator ≤ maxU64 then
    total.addUnits q.count q.fraction? q.word
  else none

/-- The span that quantities come to. -/
def sum (qs : List Quantity) : Option Span := qs.foldlM addTo {}

end Quantity

/-! ## A reader that goes on -/

/-- What a reader in some state makes of the text up to its end. -/
def readOn (state : Span × Reading) (s : List Char) : Option Span :=
  (s.foldlM Reading.step state).bind Reading.finish

theorem readOn_nil (state : Span × Reading) : readOn state [] = Reading.finish state := rfl

theorem readOn_cons (state : Span × Reading) (c : Char) (s : List Char) :
    readOn state (c :: s) = (Reading.step state c).bind fun state => readOn state s := by
  rw [readOn, List.foldlM_cons]
  cases Reading.step state c <;> rfl

variable {total : Span} {s : List Char}

/-- Blanks before a number do not count. -/
theorem readOn_gap {gap : List Char} (blank : ∀ c ∈ gap, isBlank c = true) (started : Bool) :
    readOn (total, .number? started) (gap ++ s) = readOn (total, .number? started) s := by
  induction gap with
  | nil => rfl
  | cons c gap ih =>
    rw [List.forall_mem_cons] at blank
    obtain ⟨hc, hgap⟩ := blank
    have hstep : Reading.step (total, .number? started) c = some (total, .number? started) := by
      simp only [Reading.step, digit?_of_not_isDigit (isDigit_of_isBlank hc), hc, if_true]
    rw [List.cons_append, readOn_cons, hstep, Option.bind_some, ih hgap]

theorem isLoose_cases {c : Char} (h : isLoose c = true) :
    isDigit c = true ∨ isDigit c = false ∧ isBlank c = true := by
  rw [isLoose, Bool.or_eq_true] at h
  rcases h with h | h
  · exact .inl h
  · exact .inr ⟨isDigit_of_isBlank h, h⟩

/-- **The digits before the point** make up a number, if 64 bits hold it. -/
theorem readOn_whole {ds : List Char} (loose : ∀ c ∈ ds, isLoose c = true) {n : Nat}
    (hn : n ≤ maxU64) :
    readOn (total, .whole n) (ds ++ s)
      = if Nat.ofDigitChars 10 (ds.filter isDigit) n ≤ maxU64 then
          readOn (total, .whole (Nat.ofDigitChars 10 (ds.filter isDigit) n)) s
        else none := by
  induction ds generalizing n with
  | nil => simp [hn]
  | cons c ds ih =>
    rw [List.forall_mem_cons] at loose
    obtain ⟨hc, hds⟩ := loose
    rw [List.cons_append, readOn_cons]
    -- a digit may take the number beyond 64 bits, and further digits never bring it back
    rcases isLoose_cases hc with hdigit | ⟨hdigit, hblank⟩
    · rw [List.filter_cons_of_pos hdigit, Nat.ofDigitChars_cons]
      simp only [Reading.step, digit?_of_isDigit hdigit]
      rw [Nat.mul_comm n 10]
      by_cases hfit : 10 * n + (c.toNat - '0'.toNat) ≤ maxU64
      · simp only [fit, if_pos hfit, Option.map_some, Option.bind_some]
        exact ih hds hfit
      · have hle := le_ofDigitChars (ds.filter isDigit) (10 * n + (c.toNat - '0'.toNat))
        rw [if_neg (by omega)]
        simp only [fit, if_neg hfit, Option.map_none, Option.bind_none]
    · rw [List.filter_cons_of_neg (by simp [hdigit])]
      simp only [Reading.step, digit?_of_not_isDigit hdigit, hblank, if_true, Option.bind_some]
      exact ih hds hn

/-- A fraction with digits behind those it has. -/
def Fraction.extend (f : Fraction) (digits : List Char) : Fraction :=
  ⟨Nat.ofDigitChars 10 digits f.numerator, f.denominator * 10 ^ digits.length⟩

/-- **The digits behind the point** make up a fraction, if 64 bits hold its denominator. -/
theorem readOn_fraction {ds : List Char} (loose : ∀ c ∈ ds, isLoose c = true) (n : Nat)
    {f : Fraction} (proper : f.numerator < f.denominator) (hf : f.denominator ≤ maxU64) :
    readOn (total, .fraction n f) (ds ++ s)
      = if (f.extend (ds.filter isDigit)).denominator ≤ maxU64 then
          readOn (total, .fraction n (f.extend (ds.filter isDigit))) s
        else none := by
  induction ds generalizing f with
  | nil => simp [Fraction.extend, hf]
  | cons c ds ih =>
    rw [List.forall_mem_cons] at loose
    obtain ⟨hc, hds⟩ := loose
    rw [List.cons_append, readOn_cons]
    rcases isLoose_cases hc with hdigit | ⟨hdigit, hblank⟩
    · have hd : c.toNat - '0'.toNat ≤ 9 := by
        have hrange := isDigit_iff.1 hdigit
        have hzero : '0'.toNat = 48 := rfl
        omega
      -- the numerator stays below the denominator, so it is the denominator that decides
      have hproper : f.numerator * 10 + (c.toNat - '0'.toNat) < f.denominator * 10 := by omega
      have hextend : f.extend ((c :: ds).filter isDigit)
          = Fraction.extend ⟨f.numerator * 10 + (c.toNat - '0'.toNat), f.denominator * 10⟩
            (ds.filter isDigit) := by
        rw [List.filter_cons_of_pos hdigit, Fraction.extend, Fraction.extend,
          Nat.ofDigitChars_cons, List.length_cons, Nat.pow_succ, Nat.mul_comm 10 f.numerator,
          Nat.mul_comm (10 ^ _) 10, Nat.mul_assoc]
      rw [hextend]
      simp only [Reading.step, digit?_of_isDigit hdigit]
      by_cases hfit : f.denominator * 10 ≤ maxU64
      · have hpush : f.push (c.toNat - '0'.toNat)
            = some ⟨f.numerator * 10 + (c.toNat - '0'.toNat), f.denominator * 10⟩ := by
          simp only [Fraction.push, fit, if_pos hfit,
            if_pos (show f.numerator * 10 + (c.toNat - '0'.toNat) ≤ maxU64 by omega)]
          rfl
        rw [hpush, Option.map_some, Option.bind_some]
        exact ih hds hproper hfit
      · have hpush : f.push (c.toNat - '0'.toNat) = none := by
          simp only [Fraction.push, fit, if_neg hfit]
          rfl
        have hle : f.denominator * 10 ≤ f.denominator * 10 * 10 ^ (ds.filter isDigit).length :=
          Nat.le_mul_of_pos_right _ (Nat.pow_pos (by decide))
        rw [hpush, Option.map_none, Option.bind_none, if_neg]
        simp only [Fraction.extend]
        omega
    · rw [List.filter_cons_of_neg (by simp [hdigit])]
      simp only [Reading.step, digit?_of_not_isDigit hdigit, hblank, if_true, Option.bind_some]
      exact ih hds proper hf

/-- **The letters of a word** are kept, the latest first. -/
theorem readOn_letters {w : List Char} (letter : ∀ c ∈ w, isUnitLetter c = true) (n : Nat)
    (f? : Option Fraction) (letters : List Char) :
    readOn (total, .word n f? letters) (w ++ s)
      = readOn (total, .word n f? (w.reverse ++ letters)) s := by
  induction w generalizing letters with
  | nil => rfl
  | cons c w ih =>
    rw [List.forall_mem_cons] at letter
    obtain ⟨hc, hw⟩ := letter
    -- a letter of a unit is neither digit nor blank, so it can only go on with the word
    have hstep : Reading.step (total, .word n f? letters) c
        = some (total, .word n f? (c :: letters)) := by
      simp only [Reading.step, digit?_of_not_isDigit (isDigit_of_isUnitLetter hc),
        isBlank_of_isUnitLetter hc, hc, if_true]
      rfl
    rw [List.cons_append, readOn_cons, hstep, Option.bind_some, ih hw, List.reverse_cons,
      List.append_assoc, List.singleton_append]

/-- Behind a word the text ends, or goes on with a blank or with the next number. -/
def EndsWord (s : List Char) : Prop := ∀ c ∈ s.head?, isLoose c = true

/-- **At its end a quantity is added**, and the reader stands before a number again. -/
theorem readOn_word (n : Nat) (f? : Option Fraction) (letters : List Char) (ends : EndsWord s) :
    readOn (total, .word n f? letters) s
      = (total.addUnits n f? letters.reverse).bind fun total =>
          readOn (total, .number? true) s := by
  cases s with
  | nil =>
    rw [readOn_nil, Reading.finish]
    cases total.addUnits n f? letters.reverse <;> rfl
  | cons c s =>
    have hc : isLoose c = true := ends c rfl
    simp only [readOn_cons]
    -- whether a digit or a blank ends the word, its unit is added
    rcases isLoose_cases hc with hdigit | ⟨hdigit, hblank⟩
    · simp only [Reading.step, digit?_of_isDigit hdigit]
      cases total.addUnits n f? letters.reverse <;> rfl
    · simp only [Reading.step, digit?_of_not_isDigit hdigit, hblank, if_true]
      cases total.addUnits n f? letters.reverse <;> rfl

namespace Quantity

theorem fraction?_denominator (q : Quantity) : ∀ f ∈ q.fraction?, 1 < f.denominator := by
  intro f hf
  obtain ⟨ds, hds, rfl⟩ := Option.map_eq_some_iff.1 hf
  obtain ⟨c, hc, hdigit⟩ := q.digit_decimals ds hds
  have hmem : c ∈ ds.filter isDigit := List.mem_filter.2 ⟨hc, hdigit⟩
  exact Nat.one_lt_pow (Nat.ne_of_gt (List.length_pos_of_mem hmem)) (by decide)

/-- The first letter of the word ends the digits before it. -/
theorem readOn_unit (q : Quantity) (n : Nat) (f? : Option Fraction) {reading : Reading}
    (turn : ∀ c, isUnitLetter c = true →
      Reading.step (total, reading) c = some (total, .word n f? [c]))
    (ends : EndsWord (q.gap ++ s)) :
    readOn (total, reading) (q.word ++ (q.gap ++ s))
      = (total.addUnits n f? q.word).bind fun total => readOn (total, .number? true) s := by
  obtain ⟨c, w, hw⟩ := List.exists_cons_of_ne_nil q.word_ne_nil
  have hletter := q.letter_word
  rw [hw, List.forall_mem_cons] at hletter
  obtain ⟨hc, hrest⟩ := hletter
  rw [hw, List.cons_append, readOn_cons, turn c hc, Option.bind_some, readOn_letters hrest,
    readOn_word _ _ _ ends, List.reverse_append, List.reverse_reverse, List.reverse_singleton,
    List.singleton_append]
  simp only [readOn_gap q.blank_gap]

theorem step_whole_letter (n : Nat) {c : Char} (h : isUnitLetter c = true) :
    Reading.step (total, .whole n) c = some (total, .word n none [c]) := by
  simp only [Reading.step, digit?_of_not_isDigit (isDigit_of_isUnitLetter h),
    isBlank_of_isUnitLetter h, h, if_true]
  rfl

theorem step_fraction_letter (n : Nat) {f : Fraction} (begun : 1 < f.denominator) {c : Char}
    (h : isUnitLetter c = true) :
    Reading.step (total, .fraction n f) c = some (total, .word n (some f) [c]) := by
  simp only [Reading.step, digit?_of_not_isDigit (isDigit_of_isUnitLetter h),
    isBlank_of_isUnitLetter h, h, decide_eq_true begun, Bool.and_self, if_true]
  rfl

theorem step_whole_point (n : Nat) :
    Reading.step (total, .whole n) '.' = some (total, .fraction n {}) := rfl

/-- **A quantity is read as what it adds.** -/
theorem readOn_text (q : Quantity) (ends : EndsWord (q.gap ++ s)) (started : Bool) :
    readOn (total, .number? started) (q.text ++ s)
      = (q.addTo total).bind fun total => readOn (total, .number? true) s := by
  have hfirst : Reading.step (total, .number? started) q.first
      = some (total, .whole (q.first.toNat - '0'.toNat)) := by
    simp only [Reading.step, digit?_of_isDigit q.isDigit_first]
  -- one digit fits in any case
  have hsmall : q.first.toNat - '0'.toNat ≤ maxU64 := by
    have hrange := isDigit_iff.1 q.isDigit_first
    unfold maxU64
    omega
  have hcount : Nat.ofDigitChars 10 (q.more.filter isDigit) (q.first.toNat - '0'.toNat)
      = q.count := by
    rw [count, numberOf, Nat.ofDigitChars_cons, Nat.mul_zero, Nat.zero_add]
  have htext : q.text ++ s
      = q.first :: (q.more ++ (pointed q.decimals? ++ (q.word ++ (q.gap ++ s)))) := by
    simp [text]
  rw [htext, readOn_cons, hfirst, Option.bind_some, readOn_whole q.loose_more hsmall, hcount]
  -- the text is read as far as everything fits; where it does not, nothing is added
  by_cases hfit : q.count ≤ maxU64
  · rw [if_pos hfit]
    cases hdecimals : q.decimals? with
    | none =>
      have hadd : q.addTo total = total.addUnits q.count none q.word := by
        simp [addTo, hfit, fraction?, hdecimals]
      rw [hadd, pointed, List.nil_append]
      exact q.readOn_unit _ _ (fun c hc => step_whole_letter q.count hc) ends
    | some ds =>
      have hfraction : q.fraction? = some (fractionOf ds) := by rw [fraction?, hdecimals]; rfl
      have hextend : Fraction.extend {} (ds.filter isDigit) = fractionOf ds := by
        rw [Fraction.extend, fractionOf, Nat.one_mul, numberOf]
      rw [pointed, List.cons_append, readOn_cons, step_whole_point, Option.bind_some,
        readOn_fraction (q.loose_decimals ds hdecimals) _ (by decide) (by decide), hextend]
      by_cases hdenominator : (fractionOf ds).denominator ≤ maxU64
      · have hadd : q.addTo total = total.addUnits q.count (some (fractionOf ds)) q.word := by
          simp [addTo, hfit, hfraction, hdenominator]
        rw [if_pos hdenominator, hadd]
        exact q.readOn_unit _ _ (fun c hc => step_fraction_letter q.count
          (q.fraction?_denominator _ hfraction) hc) ends
      · have hadd : q.addTo total = none := by
          simp [addTo, hfraction, hdenominator]
        rw [if_neg hdenominator, hadd, Option.bind_none]
  · have hadd : q.addTo total = none := by simp [addTo, hfit]
    rw [if_neg hfit, hadd, Option.bind_none]

theorem endsWord_flatMap (qs : List Quantity) : EndsWord (qs.flatMap text) := by
  intro c hc
  cases qs with
  | nil => simp at hc
  | cons q qs =>
    have hfirst : q.first = c := by simpa [text] using hc
    rw [← hfirst, isLoose, q.isDigit_first]
    rfl

theorem endsWord_gap (q : Quantity) (h : EndsWord s) : EndsWord (q.gap ++ s) := by
  cases hgap : q.gap with
  | nil => exact h
  | cons b gap =>
    intro c hc
    have hb : b = c := by simpa using hc
    have hblank := q.blank_gap b (by simp [hgap])
    rw [← hb, isLoose, hblank, Bool.or_true]

/-- **Quantities are read as their sum.** -/
theorem readOn_flatMap (qs : List Quantity) (total : Span) :
    readOn (total, .number? true) (qs.flatMap text) = qs.foldlM addTo total := by
  induction qs generalizing total with
  | nil => rfl
  | cons q qs ih =>
    rw [List.flatMap_cons, readOn_text q (endsWord_gap q (endsWord_flatMap qs)), List.foldlM_cons]
    simp only [ih]
    rfl

end Quantity

/-! ## What was read -/

/-- Blanks, and quantities behind them; `started` says that there need not be one. -/
def Goes (started : Bool) (s : List Char) : Prop :=
  ∃ gap qs, (∀ c ∈ gap, isBlank c = true) ∧ (started = true ∨ qs ≠ [])
    ∧ s = gap ++ qs.flatMap Quantity.text

/-- What may stand behind the place where a reader stands: the rest of a quantity, if it is within
one, and more of them. -/
def Behind : Reading → List Char → Prop
  | .number? started, s => Goes started s
  | .word _ _ _, s => ∃ w rest, (∀ c ∈ w, isUnitLetter c = true) ∧ Goes true rest ∧ s = w ++ rest
  | .fraction _ f, s => ∃ ds w rest, (∀ c ∈ ds, isLoose c = true)
      ∧ (1 < f.denominator ∨ ∃ c ∈ ds, isDigit c = true)
      ∧ w ≠ [] ∧ (∀ c ∈ w, isUnitLetter c = true) ∧ Goes true rest ∧ s = ds ++ (w ++ rest)
  | .whole _, s => ∃ more decimals? w rest, (∀ c ∈ more, isLoose c = true)
      ∧ (∀ ds ∈ decimals?, (∀ c ∈ ds, isLoose c = true) ∧ ∃ c ∈ ds, isDigit c = true)
      ∧ w ≠ [] ∧ (∀ c ∈ w, isUnitLetter c = true) ∧ Goes true rest
      ∧ s = more ++ (Quantity.pointed decimals? ++ (w ++ rest))

theorem goes_nil : Goes true [] := ⟨[], [], by simp, .inl rfl, rfl⟩

theorem Goes.blank {started : Bool} {c : Char} (h : Goes started s) (hc : isBlank c = true) :
    Goes started (c :: s) := by
  obtain ⟨gap, qs, hgap, hqs, rfl⟩ := h
  exact ⟨c :: gap, qs, List.forall_mem_cons.2 ⟨hc, hgap⟩, hqs, rfl⟩

/-- A digit begins a quantity. -/
theorem goes_of_whole {n : Nat} {c : Char} (h : Behind (.whole n) s) (hc : isDigit c = true)
    (started : Bool) : Goes started (c :: s) := by
  obtain ⟨more, decimals?, w, rest, hmore, hdecimals, hne, hw, ⟨gap, qs, hgap, -, rfl⟩, rfl⟩ := h
  refine ⟨[], ⟨c, more, decimals?, w, gap, hc, hmore, fun ds hds => (hdecimals ds hds).1,
    fun ds hds => (hdecimals ds hds).2, hne, hw, hgap⟩ :: qs, by simp, by simp, ?_⟩
  simp [Quantity.text]

/-- A digit goes on with a number, or begins the next quantity. -/
theorem behind_digit {reading reading' : Reading} {total' : Span} {c : Char}
    (hc : isDigit c = true) (step : Reading.step (total, reading) c = some (total', reading'))
    (h : Behind reading' s) : Behind reading (c :: s) := by
  have hd := digit?_of_isDigit hc
  have hloose : isLoose c = true := by rw [isLoose, hc, Bool.true_or]
  -- a digit begins a number, belongs to one, or ends the word of a unit
  cases reading with
  | number? started =>
    simp only [Reading.step, hd] at step
    cases step
    exact goes_of_whole h hc started
  | whole n =>
    simp only [Reading.step, hd] at step
    obtain ⟨m, -, heq⟩ := Option.map_eq_some_iff.1 step
    cases heq
    obtain ⟨more, decimals?, w, rest, hmore, hdecimals, hne, hw, hrest, rfl⟩ := h
    exact ⟨c :: more, decimals?, w, rest, List.forall_mem_cons.2 ⟨hloose, hmore⟩, hdecimals, hne,
      hw, hrest, rfl⟩
  | fraction n f =>
    simp only [Reading.step, hd] at step
    obtain ⟨f', -, heq⟩ := Option.map_eq_some_iff.1 step
    cases heq
    obtain ⟨ds, w, rest, hds, -, hne, hw, hrest, rfl⟩ := h
    exact ⟨c :: ds, w, rest, List.forall_mem_cons.2 ⟨hloose, hds⟩,
      .inr ⟨c, List.mem_cons_self, hc⟩, hne, hw, hrest, rfl⟩
  | word n f? letters =>
    simp only [Reading.step, hd] at step
    obtain ⟨total'', -, heq⟩ := Option.map_eq_some_iff.1 step
    cases heq
    exact ⟨[], c :: s, by simp, goes_of_whole h hc true, rfl⟩

/-- A blank changes nothing, but that it ends a word. -/
theorem behind_blank {reading reading' : Reading} {total' : Span} {c : Char}
    (hc : isBlank c = true) (step : Reading.step (total, reading) c = some (total', reading'))
    (h : Behind reading' s) : Behind reading (c :: s) := by
  have hd := digit?_of_not_isDigit (isDigit_of_isBlank hc)
  have hloose : isLoose c = true := by rw [isLoose, hc, Bool.or_true]
  -- blanks are skipped everywhere, but one that follows a word ends it
  cases reading with
  | number? started =>
    simp only [Reading.step, hd, hc, if_true] at step
    cases step
    exact Goes.blank h hc
  | whole n =>
    simp only [Reading.step, hd, hc, if_true] at step
    cases step
    obtain ⟨more, decimals?, w, rest, hmore, hdecimals, hne, hw, hrest, rfl⟩ := h
    exact ⟨c :: more, decimals?, w, rest, List.forall_mem_cons.2 ⟨hloose, hmore⟩, hdecimals, hne,
      hw, hrest, rfl⟩
  | fraction n f =>
    simp only [Reading.step, hd, hc, if_true] at step
    cases step
    obtain ⟨ds, w, rest, hds, hbegun, hne, hw, hrest, rfl⟩ := h
    exact ⟨c :: ds, w, rest, List.forall_mem_cons.2 ⟨hloose, hds⟩,
      hbegun.imp_right fun ⟨x, hx, hdigit⟩ => ⟨x, List.mem_cons_of_mem _ hx, hdigit⟩, hne, hw,
      hrest, rfl⟩
  | word n f? letters =>
    simp only [Reading.step, hd, hc, if_true] at step
    obtain ⟨total'', -, heq⟩ := Option.map_eq_some_iff.1 step
    cases heq
    exact ⟨[], c :: s, by simp, Goes.blank h hc, rfl⟩

/-- Any other character is a letter, or the point between the digits. -/
theorem behind_mark {reading reading' : Reading} {total' : Span} {c : Char}
    (hdigit : isDigit c = false) (hblank : isBlank c = false)
    (step : Reading.step (total, reading) c = some (total', reading'))
    (h : Behind reading' s) : Behind reading (c :: s) := by
  have hd := digit?_of_not_isDigit hdigit
  cases reading with
  | number? started => simp [Reading.step, hd, hblank] at step
  | whole n =>
    simp only [Reading.step, hd, hblank, Bool.false_eq_true, if_false] at step
    split at step
    · next hletter =>
      cases step
      obtain ⟨w, rest, hw, hrest, rfl⟩ := h
      exact ⟨[], none, c :: w, rest, by simp, by simp, by simp,
        List.forall_mem_cons.2 ⟨hletter, hw⟩, hrest, rfl⟩
    · split at step
      · next hpoint =>
        cases step
        subst hpoint
        obtain ⟨ds, w, rest, hds, hbegun, hne, hw, hrest, rfl⟩ := h
        refine ⟨[], some ds, w, rest, by simp, ?_, hne, hw, hrest, rfl⟩
        intro ds' hds'
        cases hds'
        -- no digit was read before the point, so there is one behind it
        exact ⟨hds, hbegun.resolve_left (by decide)⟩
      · simp at step
  | fraction n f =>
    simp only [Reading.step, hd, hblank, Bool.false_eq_true, if_false] at step
    split at step
    · next hletter =>
      cases step
      rw [Bool.and_eq_true, decide_eq_true_eq] at hletter
      obtain ⟨w, rest, hw, hrest, rfl⟩ := h
      exact ⟨[], c :: w, rest, by simp, .inl hletter.2, by simp,
        List.forall_mem_cons.2 ⟨hletter.1, hw⟩, hrest, rfl⟩
    · simp at step
  | word n f? letters =>
    simp only [Reading.step, hd, hblank, Bool.false_eq_true, if_false] at step
    split at step
    · next hletter =>
      cases step
      obtain ⟨w, rest, hw, hrest, rfl⟩ := h
      exact ⟨c :: w, rest, List.forall_mem_cons.2 ⟨hletter, hw⟩, hrest, rfl⟩
    · simp at step

/-- **What was read was quantities.** -/
theorem behind_of_readOn {state : Span × Reading} {r : Span} (h : readOn state s = some r) :
    Behind state.2 s := by
  -- from the end backward: what is behind a place is known from what is behind the next one
  induction s generalizing state with
  | nil =>
    obtain ⟨total, reading⟩ := state
    rw [readOn_nil] at h
    cases reading with
    | number? started =>
      simp only [Reading.finish] at h
      split at h
      · next hstarted => exact ⟨[], [], by simp, .inl hstarted, rfl⟩
      · simp at h
    | whole n => simp [Reading.finish] at h
    | fraction n f => simp [Reading.finish] at h
    | word n f? letters => exact ⟨[], [], by simp, goes_nil, rfl⟩
  | cons c s ih =>
    rw [readOn_cons] at h
    obtain ⟨state', hstep, hrest⟩ := Option.bind_eq_some_iff.1 h
    have hbehind := ih hrest
    by_cases hdigit : isDigit c = true
    · exact behind_digit hdigit hstep hbehind
    · by_cases hblank : isBlank c = true
      · exact behind_blank hblank hstep hbehind
      · exact behind_mark (Bool.eq_false_iff.2 hdigit) (Bool.eq_false_iff.2 hblank) hstep hbehind

/-! ## Whole spans -/

namespace Quantity

/-- A quantity has a letter. -/
theorem exists_letter (q : Quantity) : ∃ c ∈ q.text, isUnitLetter c = true := by
  obtain ⟨c, w, hw⟩ := List.exists_cons_of_ne_nil q.word_ne_nil
  exact ⟨c, by simp [text, hw], q.letter_word c (by simp [hw])⟩

/-- There are digits, blanks, letters and points in a quantity, and nothing else. -/
theorem mem_text {q : Quantity} {c : Char} (h : c ∈ q.text) :
    isLoose c = true ∨ isUnitLetter c = true ∨ c = '.' := by
  simp only [text, List.mem_cons, List.mem_append] at h
  rcases h with rfl | ((h | h) | h) | h
  · exact .inl (by rw [isLoose, q.isDigit_first, Bool.true_or])
  · exact .inl (q.loose_more c h)
  · cases hdecimals : q.decimals? with
    | none => simp [hdecimals, pointed] at h
    | some ds =>
      rw [hdecimals, pointed, List.mem_cons] at h
      exact h.elim (fun h => .inr (.inr h)) fun h => .inl (q.loose_decimals ds hdecimals c h)
  · exact .inr (.inl (q.letter_word c h))
  · exact .inl (by rw [isLoose, q.blank_gap c h, Bool.or_true])

end Quantity

/-- Quantities one after another, with blanks before them or without, and the span that they come
to. -/
def Together (s : List Char) (total : Span) : Prop :=
  ∃ gap qs, (∀ c ∈ gap, isBlank c = true) ∧ qs ≠ [] ∧ s = gap ++ qs.flatMap Quantity.text
    ∧ Quantity.sum qs = some total

/-- What is given with units is no numeral. -/
theorem Together.isNumeral (h : Together s total) : isNumeral s = false := by
  obtain ⟨gap, qs, -, hne, rfl, -⟩ := h
  obtain ⟨q, qs, rfl⟩ := List.exists_cons_of_ne_nil hne
  obtain ⟨c, hmem, hletter⟩ := q.exists_letter
  rw [Bool.eq_false_iff]
  intro hnumeral
  rw [Text.isNumeral, Bool.and_eq_true, List.all_eq_true] at hnumeral
  have hdigit := hnumeral.2 c (by simp [hmem])
  rw [isDigit_of_isUnitLetter hletter] at hdigit
  simp at hdigit

/-- What is given with units has no colon. -/
theorem Together.not_mem_colon (h : Together s total) : ':' ∉ s := by
  obtain ⟨gap, qs, hgap, -, rfl, -⟩ := h
  intro hmem
  rcases List.mem_append.1 hmem with hmem | hmem
  · exact absurd (hgap ':' hmem) (by decide)
  · obtain ⟨q, -, hq⟩ := List.mem_flatMap.1 hmem
    exact absurd (q.mem_text hq) (by decide)

theorem readOn_start_iff {r : Span} :
    readOn ({}, .number? false) s = some r ↔ Together s r := by
  -- forward, a list of quantities is read as their sum
  have hsum : ∀ gap qs, (∀ c ∈ gap, isBlank c = true) → qs ≠ [] →
      readOn ({}, .number? false) (gap ++ qs.flatMap Quantity.text) = Quantity.sum qs := by
    intro gap qs hgap hne
    obtain ⟨q, qs, rfl⟩ := List.exists_cons_of_ne_nil hne
    rw [readOn_gap hgap, List.flatMap_cons,
      q.readOn_text (q.endsWord_gap (Quantity.endsWord_flatMap qs)), Quantity.sum,
      List.foldlM_cons]
    simp only [Quantity.readOn_flatMap]
    rfl
  constructor
  · intro h
    obtain ⟨gap, qs, hgap, hqs, rfl⟩ := behind_of_readOn h
    have hne : qs ≠ [] := hqs.resolve_left (by decide)
    exact ⟨gap, qs, hgap, hne, rfl, (hsum gap qs hgap hne).symm.trans h⟩
  · rintro ⟨gap, qs, hgap, hne, rfl, htotal⟩
    rw [hsum gap qs hgap hne, htotal]

/-- **A span with units is quantities one after another**, and lasts as long as they do together. A
lone zero needs no unit. -/
theorem units?_eq_some_iff {n : Nat} :
    units? s = some n ↔ s = ['0'] ∧ n = 0 ∨ ∃ total, Together s total ∧ n = total.seconds := by
  by_cases hs : s = ['0']
  · subst hs
    have hzero : units? ['0'] = some 0 := rfl
    have hnone : ∀ total, ¬ Together ['0'] total := fun total h => absurd h.isNumeral (by decide)
    simp [hzero, hnone, eq_comm]
  · have hread : units? s = (readOn ({}, .number? false) s).map Span.seconds := by
      rw [units?, if_neg hs, readOn]
      cases s.foldlM Reading.step ({}, .number? false) <;> rfl
    rw [hread, Option.map_eq_some_iff]
    simp only [readOn_start_iff, hs, false_and, false_or, @eq_comm _ n]

end RouterMenu.Duration
