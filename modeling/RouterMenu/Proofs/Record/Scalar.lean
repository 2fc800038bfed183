import RouterMenu.Proofs.Text.Numeral
import RouterMenu.Record.Field

/-!
# What a scalar becomes on its way over the wire and back

Text and flags come back as they were. A number comes back if it fits the 64 bits that a scalar has
for it, and a duration if it is not negative besides; all others come back as zero. `FieldType.Kept`
says which contents are kept, and `FieldType.decode_encode` that they are.
-/

namespace RouterMenu

/-! ## Numbers -/

theorem IntType.i64_lo_le (t : IntType) : IntType.i64.lo ≤ t.lo := by cases t <;> decide

theorem IntType.hi_le (t : IntType) : t.hi ≤ Text.maxU64 := by cases t <;> decide

namespace Whole

variable {t : IntType}

theorem ofInt?_val (n : Whole t) : ofInt? n.val = some n := by
  rw [ofInt?, dif_pos ⟨n.lo_le, n.le_hi⟩]

/-- A number within the range is the same after narrowing. -/
theorem narrow_of_fits {n : Int} (hlo : t.lo ≤ n) (hhi : n ≤ t.hi) :
    (narrow n : Whole t) = ⟨n, hlo, hhi⟩ := by
  rw [narrow, ofInt?, dif_pos ⟨hlo, hhi⟩]
  rfl

/-- A number outside of the range is narrowed to zero. -/
theorem narrow_of_not_fits {n : Int} (h : ¬ (t.lo ≤ n ∧ n ≤ t.hi)) :
    (narrow n : Whole t) = zero := by
  rw [narrow, ofInt?, dif_neg h]
  rfl

theorem narrow_val (n : Whole t) : narrow n.val = n := narrow_of_fits n.lo_le n.le_hi

theorem narrow_zero : (narrow 0 : Whole t) = zero := narrow_of_fits t.lo_nonpos t.hi_nonneg

/-- A number keeps its value as a scalar if it is not too large for one. -/
theorem narrow_i64_val (n : Whole t) :
    (narrow n.val : Whole .i64).val = if n.val ≤ IntType.i64.hi then n.val else 0 := by
  have hlo : IntType.i64.lo ≤ n.val := Int.le_trans t.i64_lo_le n.lo_le
  by_cases hhi : n.val ≤ IntType.i64.hi
  · rw [narrow_of_fits hlo hhi, if_pos hhi]
  · rw [narrow_of_not_fits fun h => hhi h.2, if_neg hhi]
    rfl

end Whole

/-- A scalar that is a number is read back from its text. -/
theorem Coercion.readInt_encode (n : Whole .i64) : readInt (Value.int n).encode = n := by
  have hread : Text.i64? (Text.ofInt n.val) = some n.val := Text.intWithin?_ofInt n.lo_le n.le_hi
  simp only [readInt, Value.encode, String.toList_ofList, hread]
  exact n.narrow_val

/-! ## Durations -/

namespace Duration

open Text

/-- Bare digits are seconds. -/
theorem decode_ofNat {n : Nat} (h : n ≤ maxSeconds) : decode (String.ofList (ofNat n)) = .ok n := by
  have hcut : cut 'd' (ofNat n) = none := cut_of_not_mem (not_mem_ofNat (by decide) n)
  simp only [decode, String.toList_ofList, hcut, isNumeral_ofNat, if_true, natUpTo?_ofNat h]
  rfl

/-- A sign is no clock, so what has one counts as nothing. -/
theorem decode_minus (digits : List Char) (hd : 'd' ∉ digits) (hc : ':' ∉ digits) :
    decode (String.ofList ('-' :: digits)) = .ok 0 := by
  have hcut : cut 'd' ('-' :: digits) = none := cut_of_not_mem (by simp [hd])
  have hnumeral : isNumeral ('-' :: digits) = false := by simp [isNumeral, isDigit, digit?]
  have hcolon : ('-' :: digits).contains ':' = false := by simp [hc]
  have hunits : units? ('-' :: digits) = none := by
    -- no span begins with a sign
    have hstep : Reading.step ({}, .number? false) '-' = none := by decide
    simp [units?, List.foldlM_cons, hstep]
  simp [decode, hcut, hnumeral, clock, clock?, hc, hunits]

/-- **An integer is read as that many seconds**, and as none if it is negative. -/
theorem decode_ofInt {n : Int} (h : n ≤ maxSeconds) :
    decode (String.ofList (ofInt n)) = .ok n.toNat := by
  cases n with
  | ofNat k => exact decode_ofNat (Int.ofNat_le.1 h)
  | negSucc k =>
    exact decode_minus _ (not_mem_ofNat (by decide) _) (not_mem_ofNat (by decide) _)

end Duration

/-! ## Contents of fields -/

namespace FieldType

/-- The contents come back from the wire: any text and any flag, a number that 64 bits hold, and a
duration if it is not negative either. -/
def Kept : (t : FieldType) → t.Carrier → Prop
  | .text, _ | .flag, _ => True
  | .int _, n => n.val ≤ IntType.i64.hi
  | .duration _, n => 0 ≤ n.val ∧ n.val ≤ IntType.i64.hi

instance (t : FieldType) (x : t.Carrier) : Decidable (t.Kept x) :=
  match t, x with
  | .text, _ | .flag, _ => .isTrue trivial
  | .int _, n => inferInstanceAs (Decidable (n.val ≤ IntType.i64.hi))
  | .duration _, n => inferInstanceAs (Decidable (0 ≤ n.val ∧ n.val ≤ IntType.i64.hi))

/-- What comes back of the contents: all or nothing. -/
def carried (t : FieldType) (x : t.Carrier) : t.Carrier := if t.Kept x then x else t.zero

theorem carried_of_kept {t : FieldType} {x : t.Carrier} (h : t.Kept x) : t.carried x = x := if_pos h

theorem carried_of_not_kept {t : FieldType} {x : t.Carrier} (h : ¬ t.Kept x) :
    t.carried x = t.zero := if_neg h

/-- **What was written is read back** as far as it is kept. -/
theorem decode_encode (t : FieldType) (x : t.Carrier) :
    ∃ v, t.coercion.decode (t.toValue x).encode = .ok v ∧ t.ofValue? v = some (t.carried x) := by
  cases t with
  | text => exact ⟨.text x, rfl, rfl⟩
  | flag =>
    have hflag : ∀ b : Bool,
        Coercion.yesWords.any (Text.sameLetters (Value.flag b).encode) = b := by
      decide
    exact ⟨.flag x, by simp [coercion, toValue, Coercion.decode, hflag], rfl⟩
  | int t =>
    refine ⟨.int (Whole.narrow x.val), ?_, ?_⟩
    · simp only [coercion, toValue, Coercion.decode, Coercion.readInt_encode]
    · by_cases hk : (FieldType.int t).Kept x
      · have hhi : x.val ≤ IntType.i64.hi := hk
        rw [carried_of_kept hk, ofValue?, Whole.narrow_i64_val, if_pos hhi, Whole.narrow_val]
      · have hhi : ¬ x.val ≤ IntType.i64.hi := hk
        rw [carried_of_not_kept hk, ofValue?, Whole.narrow_i64_val, if_neg hhi, Whole.narrow_zero]
        rfl
  | duration t =>
    have hread : Duration.decode (Value.int (Whole.narrow x.val)).encode
        = .ok (Whole.narrow x.val : Whole .i64).val.toNat :=
      Duration.decode_ofInt (Whole.narrow x.val : Whole .i64).le_hi
    refine ⟨.int (Whole.narrow (Whole.narrow x.val : Whole .i64).val.toNat), ?_, ?_⟩
    · simp only [coercion, toValue, Coercion.decode, hread]
    · by_cases hk : (FieldType.duration t).Kept x
      · have hval : (Whole.narrow x.val : Whole .i64).val = x.val := by
          rw [Whole.narrow_i64_val, if_pos hk.2]
        rw [carried_of_kept hk, ofValue?, hval, Int.toNat_of_nonneg hk.1, hval, Whole.narrow_val]
      · -- it is too large for a scalar, or it is negative
        have hnone : (Whole.narrow x.val : Whole .i64).val.toNat = 0 := by
          rw [Whole.narrow_i64_val]
          split
          · next hhi =>
            have hneg : ¬ 0 ≤ x.val := fun h => hk ⟨h, hhi⟩
            exact Int.toNat_eq_zero.2 (by omega)
          · rfl
        rw [carried_of_not_kept hk, ofValue?, hnone, Int.natCast_zero, Whole.narrow_zero]
        exact congrArg some Whole.narrow_zero

/-- What counts as unset comes back as unset. -/
theorem carried_of_isZero {t : FieldType} {x : t.Carrier} (h : (t.toValue x).isZero = true) :
    t.carried x = t.zero := by
  have hnumber : ∀ {t : IntType} {n : Whole t}, (Value.int (Whole.narrow n.val)).isZero = true →
      n.val ≤ IntType.i64.hi → n = Whole.zero := by
    intro t n hz hhi
    simp only [Value.isZero, beq_iff_eq, Whole.narrow_i64_val, if_pos hhi] at hz
    rw [← n.narrow_val, hz, Whole.narrow_zero]
  -- the scalar of what is kept is zero for zero alone; the rest is carried as zero
  by_cases hk : t.Kept x
  · rw [carried_of_kept hk]
    cases t with
    | text => exact String.isEmpty_iff.1 h
    | flag =>
      have hfalse : (!x) = true := h
      exact Bool.not_inj hfalse
    | int t => exact hnumber h hk
    | duration t => exact hnumber h hk.2
  · exact carried_of_not_kept hk

end FieldType

end RouterMenu
