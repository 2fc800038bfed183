import Mathlib.Tactic.Common
import RouterMenu.Text.Utf8

/-!
# How bytes that are no text are read

Bytes are read as characters where characters stand. Where none stands, something is read as the
replacement character: a byte that begins no character, or else the longest run of bytes that could
still have become one (`Broken`). Reading skips nothing, and reads nothing twice (`Reads`).

A character that has begun is known by its first bytes. The pending state keeps of them what it
takes to recognise the rest (`Awaits`), so that breaking off and being completed are questions to it
(`Pending.complete?`).
-/

namespace RouterMenu.Text.Utf8

open String (utf8EncodeChar)

/-! ## The bytes of a character -/

theorem toNat_valid (c : Char) :
    c.toNat < 0xD800 ∨ 0xDFFF < c.toNat ∧ c.toNat < 0x110000 := c.valid

theorem toNat_ofNat_of_valid {n : Nat} (h : n < 0xD800 ∨ 0xDFFF < n ∧ n < 0x110000) :
    (Char.ofNat n).toNat = n := by
  have hn : n.isValidChar := h
  rw [Char.ofNat, dif_pos hn]
  rfl

theorem eq_ofNat_iff {c : Char} {n : Nat} (h : n < 0xD800 ∨ 0xDFFF < n ∧ n < 0x110000) :
    Char.ofNat n = c ↔ c.toNat = n := by
  constructor
  · rintro rfl
    exact toNat_ofNat_of_valid h
  · intro hc
    rw [← hc, Char.ofNat_toNat]

theorem encode_one_iff {c : Char} {b : UInt8} :
    utf8EncodeChar c = [b] ↔ c.toNat < 0x80 ∧ b.toNat = c.toNat := by
  have hv := toNat_valid c
  have hn : c.val.toNat = c.toNat := rfl
  simp only [utf8EncodeChar, hn]
  split
  · simp only [List.cons.injEq, and_true, ← UInt8.toNat_inj, UInt8.toNat_ofNat']
    omega
  · split
    · simp; omega
    · split <;> simp <;> omega

theorem encode_two_iff {c : Char} {a b : UInt8} :
    utf8EncodeChar c = [a, b] ↔ (0x80 ≤ c.toNat ∧ c.toNat < 0x800)
      ∧ a.toNat = c.toNat / 64 + 0xC0 ∧ b.toNat = c.toNat % 64 + 0x80 := by
  have hv := toNat_valid c
  have hn : c.val.toNat = c.toNat := rfl
  simp only [utf8EncodeChar, hn]
  split
  · simp; omega
  · split
    · simp only [List.cons.injEq, and_true, ← UInt8.toNat_inj, UInt8.toNat_ofNat']
      omega
    · split <;> simp <;> omega

theorem encode_three_iff {c : Char} {a b d : UInt8} :
    utf8EncodeChar c = [a, b, d] ↔ (0x800 ≤ c.toNat ∧ c.toNat < 0x10000)
      ∧ a.toNat = c.toNat / 4096 + 0xE0 ∧ b.toNat = c.toNat / 64 % 64 + 0x80
      ∧ d.toNat = c.toNat % 64 + 0x80 := by
  have hv := toNat_valid c
  have hn : c.val.toNat = c.toNat := rfl
  simp only [utf8EncodeChar, hn]
  split
  · simp; omega
  · split
    · simp; omega
    · split
      · simp only [List.cons.injEq, and_true, ← UInt8.toNat_inj, UInt8.toNat_ofNat']
        omega
      · simp; omega

theorem encode_four_iff {c : Char} {a b d e : UInt8} :
    utf8EncodeChar c = [a, b, d, e] ↔ 0x10000 ≤ c.toNat
      ∧ a.toNat = c.toNat / 262144 + 0xF0 ∧ b.toNat = c.toNat / 4096 % 64 + 0x80
      ∧ d.toNat = c.toNat / 64 % 64 + 0x80 ∧ e.toNat = c.toNat % 64 + 0x80 := by
  have hv := toNat_valid c
  have hn : c.val.toNat = c.toNat := rfl
  simp only [utf8EncodeChar, hn]
  split
  · simp; omega
  · split
    · simp; omega
    · split
      · simp; omega
      · simp only [List.cons.injEq, and_true, ← UInt8.toNat_inj, UInt8.toNat_ofNat']
        omega

/-- The first byte of a character tells how many there are. -/
theorem encode_cons_cases {c : Char} {b : UInt8} {more : List UInt8}
    (h : utf8EncodeChar c = b :: more) :
    b.toNat < 0x80 ∧ more = []
      ∨ (0xC2 ≤ b.toNat ∧ b.toNat < 0xE0) ∧ (∃ x, more = [x])
      ∨ (0xE0 ≤ b.toNat ∧ b.toNat < 0xF0) ∧ (∃ x y, more = [x, y])
      ∨ (0xF0 ≤ b.toNat ∧ b.toNat < 0xF5) ∧ ∃ x y z, more = [x, y, z] := by
  have hv := toNat_valid c
  -- by how many bytes follow the first one; they are three at most
  match more with
  | [] =>
    have := encode_one_iff.1 h
    exact .inl ⟨by omega, rfl⟩
  | [x] =>
    have := encode_two_iff.1 h
    exact .inr (.inl ⟨by omega, x, rfl⟩)
  | [x, y] =>
    have := encode_three_iff.1 h
    exact .inr (.inr (.inl ⟨by omega, x, y, rfl⟩))
  | [x, y, z] =>
    have := encode_four_iff.1 h
    exact .inr (.inr (.inr ⟨by omega, x, y, z, rfl⟩))
  | x :: y :: z :: w :: more =>
    have hlength := congrArg List.length h
    simp only [utf8EncodeChar] at hlength
    split at hlength
    · simp at hlength
    · split at hlength
      · simp at hlength
      · split at hlength <;> simp at hlength

/-! ## Characters that have begun -/

/-- The character that bytes complete. -/
def Pending.complete? (p : Pending) : List UInt8 → Option Char
  | [] => none
  | b :: more =>
    if p.low ≤ b ∧ b ≤ p.high then
      let bits := p.bits * 0x40 + b.toNat % 0x40
      if p.needed ≤ 1 then
        if more = [] then some (Char.ofNat bits) else none
      else complete? ⟨bits, p.needed - 1, 0x80, 0xBF⟩ more
    else none

theorem Pending.complete?_last {p : Pending} (hp : p.needed ≤ 1) {more : List UInt8} {c : Char} :
    p.complete? more = some c ↔
      ∃ b, more = [b] ∧ (p.low.toNat ≤ b.toNat ∧ b.toNat ≤ p.high.toNat)
        ∧ Char.ofNat (p.bits * 64 + b.toNat % 64) = c := by
  cases more with
  | nil => simp [complete?]
  | cons b more =>
    rw [complete?, if_pos hp]
    simp only [UInt8.le_iff_toNat_le]
    by_cases hb : p.low.toNat ≤ b.toNat ∧ b.toNat ≤ p.high.toNat
    · by_cases hm : more = [] <;> simp [hb, hm]
    · simp only [hb, if_false, reduceCtorEq, List.cons.injEq, false_iff]
      rintro ⟨x, ⟨rfl, -⟩, hx, -⟩
      exact hb hx

theorem Pending.complete?_next {p : Pending} (hp : ¬ p.needed ≤ 1) {more : List UInt8} {c : Char} :
    p.complete? more = some c ↔
      ∃ b rest, more = b :: rest ∧ (p.low.toNat ≤ b.toNat ∧ b.toNat ≤ p.high.toNat)
        ∧ (⟨p.bits * 64 + b.toNat % 64, p.needed - 1, 0x80, 0xBF⟩ : Pending).complete? rest
          = some c := by
  cases more with
  | nil => simp [complete?]
  | cons b more =>
    rw [complete?, if_neg hp]
    simp only [UInt8.le_iff_toNat_le]
    by_cases hb : p.low.toNat ≤ b.toNat ∧ b.toNat ≤ p.high.toNat
    · simp [hb]
    · simp only [hb, if_false, reduceCtorEq, List.cons.injEq, false_iff]
      rintro ⟨x, rest, ⟨rfl, -⟩, hx, -⟩
      exact hb hx

/-- The state knows which bytes make a character of those that have been read. -/
structure Awaits (fragment : List UInt8) (p : Pending) : Prop where
  complete : ∀ more c, utf8EncodeChar c = fragment ++ more ↔ p.complete? more = some c
  possible : p.low.toNat ≤ p.high.toNat

theorem Pending.exists_complete? (n : Nat) : ∀ p : Pending, p.needed = n →
    p.low.toNat ≤ p.high.toNat → ∃ b more c, p.complete? (b :: more) = some c := by
  induction n with
  | zero =>
    intro p hn hp
    exact ⟨p.low, [], _, (complete?_last (by omega)).2 ⟨p.low, rfl, ⟨Nat.le_refl _, hp⟩, rfl⟩⟩
  | succ n ih =>
    intro p hn hp
    by_cases hone : p.needed ≤ 1
    · exact ⟨p.low, [], _, (complete?_last hone).2 ⟨p.low, rfl, ⟨Nat.le_refl _, hp⟩, rfl⟩⟩
    · obtain ⟨b, more, c, h⟩ := ih ⟨p.bits * 64 + p.low.toNat % 64, p.needed - 1, 0x80, 0xBF⟩
        (show p.needed - 1 = n by omega) (Nat.le_of_ble_eq_true rfl)
      exact ⟨p.low, b :: more, c,
        (complete?_next hone).2 ⟨p.low, b :: more, rfl, ⟨Nat.le_refl _, hp⟩, h⟩⟩

namespace Awaits

variable {fragment : List UInt8} {p : Pending} {b : UInt8}

/-- What has been read is the beginning of a character, and not all of it. -/
theorem opens (h : Awaits fragment p) :
    ∃ more c, more ≠ [] ∧ utf8EncodeChar c = fragment ++ more := by
  obtain ⟨b, more, c, hc⟩ := p.exists_complete? p.needed rfl h.possible
  exact ⟨b :: more, c, List.cons_ne_nil _ _, (h.complete _ _).2 hc⟩

theorem completed (h : Awaits fragment p) (last : p.needed ≤ 1) (hb : p.low ≤ b ∧ b ≤ p.high) :
    utf8EncodeChar (Char.ofNat (p.bits * 0x40 + b.toNat % 0x40)) = fragment ++ [b] :=
  (h.complete _ _).2 ((Pending.complete?_last last).2 ⟨b, rfl, hb, rfl⟩)

theorem continued (h : Awaits fragment p) (next : ¬ p.needed ≤ 1) (hb : p.low ≤ b ∧ b ≤ p.high) :
    Awaits (fragment ++ [b]) ⟨p.bits * 0x40 + b.toNat % 0x40, p.needed - 1, 0x80, 0xBF⟩ where
  complete more c := by
    rw [List.append_assoc, List.singleton_append, h.complete, Pending.complete?_next next]
    constructor
    · rintro ⟨x, rest, heq, -, hc⟩
      obtain ⟨rfl, rfl⟩ := List.cons.inj heq
      exact hc
    · intro hc
      exact ⟨b, more, rfl, hb, hc⟩
  possible := Nat.le_of_ble_eq_true rfl

theorem cut_off (h : Awaits fragment p) (hb : ¬ (p.low ≤ b ∧ b ≤ p.high)) (more : List UInt8)
    (c : Char) : utf8EncodeChar c ≠ fragment ++ b :: more := by
  intro hc
  have := (h.complete _ _).1 hc
  rw [Pending.complete?, if_neg hb] at this
  cases this

/-! ### First bytes -/

theorem of_two (h : 0xC2 ≤ b.toNat ∧ b.toNat ≤ 0xDF) :
    Awaits [b] ⟨b.toNat % 0x20, 1, 0x80, 0xBF⟩ where
  complete more c := by
    rw [Pending.complete?_last (Nat.le_refl 1)]
    simp only [UInt8.reduceToNat]
    constructor
    · intro hc
      -- the first byte leaves no other length
      obtain ⟨hb, -⟩ | ⟨-, x, rfl⟩ | ⟨hb, -⟩ | ⟨hb, -⟩ := encode_cons_cases hc
      · omega
      · have := encode_two_iff.1 hc
        exact ⟨x, rfl, by omega, (eq_ofNat_iff (by omega)).2 (by omega)⟩
      · omega
      · omega
    · rintro ⟨x, rfl, hx, hc⟩
      rw [eq_ofNat_iff (by omega)] at hc
      exact encode_two_iff.2 (by omega)
  possible := Nat.le_of_ble_eq_true rfl

theorem of_three {low high : UInt8} (h : 0xE0 ≤ b.toNat ∧ b.toNat ≤ 0xEF)
    (hlow : low.toNat = if b.toNat = 0xE0 then 0xA0 else 0x80)
    (hhigh : high.toNat = if b.toNat = 0xED then 0x9F else 0xBF) :
    Awaits [b] ⟨b.toNat % 0x10, 2, low, high⟩ where
  complete more c := by
    rw [Pending.complete?_next (by simp)]
    simp only [Nat.reduceSub, Pending.complete?_last (p := ⟨_, 1, _, _⟩) (Nat.le_refl 1),
      UInt8.reduceToNat]
    have hv := toNat_valid c
    constructor
    · intro hc
      -- the first byte leaves no other length
      obtain ⟨hb, -⟩ | ⟨hb, -⟩ | ⟨-, x, y, rfl⟩ | ⟨hb, -⟩ := encode_cons_cases hc
      · omega
      · omega
      · have := encode_three_iff.1 hc
        have hx : low.toNat ≤ x.toNat ∧ x.toNat ≤ high.toNat := by
          split at hlow <;> split at hhigh <;> omega
        exact ⟨x, [y], rfl, hx, y, rfl, by omega, (eq_ofNat_iff (by omega)).2 (by omega)⟩
      · omega
    · rintro ⟨x, rest, rfl, hx, y, rfl, hy, hc⟩
      have hx' : 0x80 ≤ x.toNat ∧ x.toNat ≤ 0xBF ∧ (b.toNat = 0xE0 → 0xA0 ≤ x.toNat)
          ∧ (b.toNat = 0xED → x.toNat ≤ 0x9F) := by
        split at hlow <;> split at hhigh <;> omega
      rw [eq_ofNat_iff (by omega)] at hc
      exact encode_three_iff.2 (by omega)
  possible := by
    show low.toNat ≤ high.toNat
    split at hlow <;> split at hhigh <;> omega

theorem of_four {low high : UInt8} (h : 0xF0 ≤ b.toNat ∧ b.toNat ≤ 0xF4)
    (hlow : low.toNat = if b.toNat = 0xF0 then 0x90 else 0x80)
    (hhigh : high.toNat = if b.toNat = 0xF4 then 0x8F else 0xBF) :
    Awaits [b] ⟨b.toNat % 0x08, 3, low, high⟩ where
  complete more c := by
    rw [Pending.complete?_next (by simp)]
    simp only [Nat.reduceSub, Pending.complete?_next (p := ⟨_, 2, _, _⟩) (Nat.not_succ_le_self 1),
      Pending.complete?_last (p := ⟨_, 1, _, _⟩) (Nat.le_refl 1), UInt8.reduceToNat]
    have hv := toNat_valid c
    constructor
    · intro hc
      -- the first byte leaves no other length
      obtain ⟨hb, -⟩ | ⟨hb, -⟩ | ⟨hb, -⟩ | ⟨-, x, y, z, rfl⟩ := encode_cons_cases hc
      · omega
      · omega
      · omega
      · have := encode_four_iff.1 hc
        have hx : low.toNat ≤ x.toNat ∧ x.toNat ≤ high.toNat := by
          split at hlow <;> split at hhigh <;> omega
        exact ⟨x, [y, z], rfl, hx, y, [z], rfl, by omega, z, rfl, by omega,
          (eq_ofNat_iff (by omega)).2 (by omega)⟩
    · rintro ⟨x, _, rfl, hx, y, _, rfl, hy, z, rfl, hz, hc⟩
      have hx' : 0x80 ≤ x.toNat ∧ x.toNat ≤ 0xBF ∧ (b.toNat = 0xF0 → 0x90 ≤ x.toNat)
          ∧ (b.toNat = 0xF4 → x.toNat ≤ 0x8F) := by
        split at hlow <;> split at hhigh <;> omega
      rw [eq_ofNat_iff (by omega)] at hc
      exact encode_four_iff.2 (by omega)
  possible := by
    show low.toNat ≤ high.toNat
    split at hlow <;> split at hhigh <;> omega

end Awaits

/-- A first byte of several is the beginning of a character. -/
theorem awaits_of_lead {b low high : UInt8} {needed : Nat}
    (h : lead b = some (needed, low, high)) :
    Awaits [b] ⟨leadBits b needed, needed, low, high⟩ := by
  simp only [lead, UInt8.le_iff_toNat_le, ← UInt8.toNat_inj, UInt8.reduceToNat] at h
  -- range by range of the first byte, as they follow one another in `lead`
  split at h
  · obtain ⟨rfl, rfl, rfl⟩ := by simpa using h
    exact .of_two (by omega)
  · split at h
    · obtain ⟨rfl, rfl, rfl⟩ := by simpa using h
      exact .of_three (by omega) (by simp; omega) (by simp; omega)
    · split at h
      · obtain ⟨rfl, rfl, rfl⟩ := by simpa using h
        exact .of_three (by omega) (by simp; omega) (by simp; omega)
      · split at h
        · obtain ⟨rfl, rfl, rfl⟩ := by simpa using h
          exact .of_three (by omega) (by simp; omega) (by simp; omega)
        · split at h
          · obtain ⟨rfl, rfl, rfl⟩ := by simpa using h
            exact .of_four (by omega) (by simp; omega) (by simp; omega)
          · split at h
            · obtain ⟨rfl, rfl, rfl⟩ := by simpa using h
              exact .of_four (by omega) (by simp; omega) (by simp; omega)
            · split at h
              · obtain ⟨rfl, rfl, rfl⟩ := by simpa using h
                exact .of_four (by omega) (by simp; omega) (by simp; omega)
              · simp at h

theorem outside_of_lead {b : UInt8} (h : lead b = none) : b.toNat < 0xC2 ∨ 0xF4 < b.toNat := by
  simp only [lead, UInt8.le_iff_toNat_le, ← UInt8.toNat_inj, UInt8.reduceToNat] at h
  grind

/-- A byte that is neither a character nor the first one of several begins none. -/
theorem ne_cons_of_lead {b : UInt8} (high : ¬ b < 0x80) (h : lead b = none) (more : List UInt8)
    (c : Char) : utf8EncodeChar c ≠ b :: more := by
  intro hc
  have hb := outside_of_lead h
  simp only [UInt8.lt_iff_toNat_lt, UInt8.reduceToNat] at high
  rcases encode_cons_cases hc with hc | hc | hc | hc <;> omega

theorem encode_ofNat {b : UInt8} (h : b < 0x80) : utf8EncodeChar (Char.ofNat b.toNat) = [b] := by
  simp only [UInt8.lt_iff_toNat_lt, UInt8.reduceToNat] at h
  rw [encode_one_iff, toNat_ofNat_of_valid (by omega)]
  exact ⟨h, rfl⟩

/-! ## Reading -/

/-- A run of bytes that is no character, in front of the rest: a byte that begins none, or the
beginning of one that does not go on. -/
inductive Broken : List UInt8 → List UInt8 → Prop where
  | stray {b : UInt8} {rest : List UInt8} (begins : ∀ more c, utf8EncodeChar c ≠ b :: more) :
      Broken [b] rest
  | cut {fragment more rest : List UInt8} {c : Char} (nonempty : fragment ≠ [])
      (begun : utf8EncodeChar c = fragment ++ more) (unfinished : more ≠ [])
      (longest : ∀ b ∈ rest.head?, ∀ more c, utf8EncodeChar c ≠ fragment ++ b :: more) :
      Broken fragment rest

/-- How bytes are read: characters as themselves, and broken runs as replacement characters. -/
inductive Reads : List UInt8 → List Char → Prop where
  | nil : Reads [] []
  | char (c : Char) {rest : List UInt8} {cs : List Char} (behind : Reads rest cs) :
      Reads (utf8EncodeChar c ++ rest) (c :: cs)
  | broken {run rest : List UInt8} {cs : List Char} (here : Broken run rest)
      (behind : Reads rest cs) : Reads (run ++ rest) (replacement :: cs)

/-! ### At most one reading -/

/-- No character is the beginning of another one. -/
theorem char_unique {c d : Char} {rest behind : List UInt8}
    (h : utf8EncodeChar c ++ rest = utf8EncodeChar d ++ behind) : c = d := by
  have hc := ByteArray.utf8DecodeChar?_utf8EncodeChar_append (b := rest.toByteArray) (c := c)
  have hd := ByteArray.utf8DecodeChar?_utf8EncodeChar_append (b := behind.toByteArray) (c := d)
  rw [← List.toByteArray_append] at hc hd
  rw [h, hd] at hc
  exact (Option.some.inj hc).symm

/-- Nor all of another one but for some bytes behind it. -/
theorem eq_nil_of_char_append {c d : Char} {more : List UInt8}
    (h : utf8EncodeChar d = utf8EncodeChar c ++ more) : more = [] := by
  have hd : utf8EncodeChar d ++ [] = utf8EncodeChar c ++ more := by rw [List.append_nil, h]
  obtain rfl := char_unique hd
  simpa using h

theorem Broken.ne_char {run rest : List UInt8} (h : Broken run rest) (c : Char)
    (behind : List UInt8) : run ++ rest ≠ utf8EncodeChar c ++ behind := by
  intro heq
  cases h with
  | stray begins =>
    obtain ⟨hc, -⟩ | ⟨more, hmore, -⟩ := List.append_eq_cons_iff.1 heq.symm
    · exact String.utf8EncodeChar_ne_nil hc
    · exact begins more c hmore
  | @cut _ more _ d nonempty begun unfinished longest =>
    -- either the character goes on beyond the run, which is cut as late as can be, or it ends
    -- within
    obtain ⟨excess, hc, rfl⟩ | ⟨excess, rfl, -⟩ := List.append_eq_append_iff.1 heq
    · cases excess with
      | nil =>
        rw [List.append_nil] at hc
        exact unfinished (eq_nil_of_char_append (hc ▸ begun))
      | cons b excess => exact longest b rfl excess c hc
    · rw [List.append_assoc] at begun
      exact unfinished (List.append_eq_nil_iff.1 (eq_nil_of_char_append begun)).2

/-- A broken run does not end before another one that starts where it does. -/
theorem Broken.not_shorter {run behind excess : List UInt8} (h : Broken run (excess ++ behind))
    (h' : Broken (run ++ excess) behind) : excess = [] := by
  cases excess with
  | nil => rfl
  | cons b excess =>
    -- the longer run goes on where the shorter one could not
    cases h with
    | stray begins =>
      generalize hlonger : [_] ++ b :: excess = longer at h'
      cases h' with
      | stray => simp at hlonger
      | @cut _ more _ c _ begun =>
        refine absurd ?_ (begins (b :: excess ++ more) c)
        rw [begun, ← hlonger]
        rfl
    | cut nonempty _ _ longest =>
      generalize hlonger : run ++ b :: excess = longer at h'
      cases h' with
      | stray =>
        have hlength := congrArg List.length hlonger
        have hrun := List.length_pos_iff.2 nonempty
        simp only [List.length_append, List.length_cons, List.length_nil] at hlength
        omega
      | @cut _ more _ c _ begun =>
        refine absurd ?_ (longest b rfl (excess ++ more) c)
        rw [begun, ← hlonger, List.append_assoc]
        rfl

theorem Broken.unique {run rest run' rest' : List UInt8} (h : Broken run rest)
    (h' : Broken run' rest') (heq : run ++ rest = run' ++ rest') : run = run' ∧ rest = rest' := by
  obtain ⟨excess, rfl, rfl⟩ | ⟨excess, rfl, rfl⟩ := List.append_eq_append_iff.1 heq
  · obtain rfl := h.not_shorter h'
    simp
  · obtain rfl := h'.not_shorter h
    simp

/-- Bytes are read in one way only. -/
theorem Reads.unique {bytes : List UInt8} {cs ds : List Char} (h : Reads bytes cs)
    (h' : Reads bytes ds) : cs = ds := by
  induction h generalizing ds with
  | nil =>
    generalize hbytes : [] = bytes at h'
    -- both readings begin alike, for a run that is broken begins no character
    cases h' with
    | nil => rfl
    | char c behind => simp [String.utf8EncodeChar_ne_nil] at hbytes
    | broken here behind =>
      cases here with
      | stray => simp at hbytes
      | cut nonempty => simp [nonempty] at hbytes
  | @char c rest cs behind ih =>
    generalize hbytes : utf8EncodeChar c ++ rest = bytes at h'
    cases h' with
    | nil => simp [String.utf8EncodeChar_ne_nil] at hbytes
    | char d behind' =>
      obtain rfl := char_unique hbytes
      rw [ih (List.append_cancel_left hbytes ▸ behind')]
    | broken here behind' => exact absurd hbytes.symm (here.ne_char c rest)
  | @broken run rest cs here behind ih =>
    generalize hbytes : run ++ rest = bytes at h'
    cases h' with
    | nil =>
      cases here with
      | stray => simp at hbytes
      | cut nonempty => simp [nonempty] at hbytes
    | char d behind' => exact absurd hbytes (here.ne_char d _)
    | broken here' behind' =>
      obtain ⟨-, rfl⟩ := here.unique here' hbytes
      rw [ih behind']

/-! ### The reading of any bytes -/

/-- Reading on behind characters that have been read. -/
def ReadsBehind (acc : List Char) (bytes : List UInt8) (result : List Char) : Prop :=
  ∃ cs, result = cs.reverse ++ acc ∧ Reads bytes cs

theorem ReadsBehind.char {acc result : List Char} {bytes rest : List UInt8} {c : Char}
    (h : ReadsBehind (c :: acc) rest result) (hc : utf8EncodeChar c ++ rest = bytes) :
    ReadsBehind acc bytes result := by
  obtain ⟨cs, rfl, hcs⟩ := h
  exact ⟨c :: cs, by simp, hc ▸ .char c hcs⟩

theorem ReadsBehind.broken {acc result : List Char} {run rest : List UInt8}
    (h : ReadsBehind (replacement :: acc) rest result) (hrun : Broken run rest) :
    ReadsBehind acc (run ++ rest) result := by
  obtain ⟨cs, rfl, hcs⟩ := h
  exact ⟨replacement :: cs, by simp, .broken hrun hcs⟩

theorem Awaits.broken {fragment rest : List UInt8} {p : Pending} (h : Awaits fragment p)
    (nonempty : fragment ≠ []) (off : ∀ b ∈ rest.head?, ¬ (p.low ≤ b ∧ b ≤ p.high)) :
    Broken fragment rest := by
  obtain ⟨more, c, hmore, hc⟩ := h.opens
  exact .cut nonempty hc hmore fun b hb => h.cut_off (off b hb)

/-- Bytes are read one after another, be they the first ones of a character or, behind a fragment
that awaits them, further ones. -/
theorem reads_run (bytes : List UInt8) :
    (∀ acc, ReadsBehind acc bytes (run acc none bytes)) ∧
      ∀ acc fragment p, fragment ≠ [] → Awaits fragment p →
        ReadsBehind acc (fragment ++ bytes) (run acc (some p) bytes) := by
  -- a byte that breaks a character off is looked at afresh, so the second part rests on the first
  -- one for the same bytes
  induction bytes with
  | nil =>
    have hnone (acc : List Char) : ReadsBehind acc [] (run acc none []) := ⟨[], rfl, .nil⟩
    refine ⟨hnone, fun acc fragment p hne hp => ?_⟩
    exact (hnone (replacement :: acc)).broken (hp.broken hne (by simp))
  | cons b rest ih =>
    obtain ⟨between, within⟩ := ih
    have hnone (acc : List Char) : ReadsBehind acc (b :: rest) (run acc none (b :: rest)) := by
      by_cases hb : b < 0x80
      · rw [run, step, start, if_pos hb]
        exact (between _).char (by rw [encode_ofNat hb]; rfl)
      · cases hl : lead b with
        | none =>
          rw [run, step, start, if_neg hb, hl]
          exact (between _).broken (.stray (ne_cons_of_lead hb hl))
        | some form =>
          rw [run, step, start, if_neg hb, hl]
          exact within acc [b] _ (List.cons_ne_nil _ _) (awaits_of_lead hl)
    refine ⟨hnone, fun acc fragment p hne hp => ?_⟩
    by_cases hb : p.low ≤ b ∧ b ≤ p.high
    · by_cases hn : p.needed ≤ 1
      · rw [run, step, if_pos hb, if_pos hn]
        exact (between _).char (by rw [hp.completed hn hb]; simp)
      · rw [run, step, if_pos hb, if_neg hn]
        have := within acc (fragment ++ [b]) _ (by simp) (hp.continued hn hb)
        rwa [List.append_assoc] at this
    · -- what was begun is broken off, and the byte is looked at as a first one
      have hstep : run acc (some p) (b :: rest) = run (replacement :: acc) none (b :: rest) := by
        rw [run, run, step, step, if_neg hb]
      rw [hstep]
      exact (hnone _).broken (hp.broken hne (by simpa using hb))

theorem reads_chars (cs : List Char) : Reads (cs.flatMap utf8EncodeChar) cs := by
  induction cs with
  | nil => exact .nil
  | cons c cs ih => exact .char c ih

theorem encode_eq_flatMap (s : String) : encode s = s.toList.flatMap utf8EncodeChar := by
  conv_lhs => rw [← String.ofList_toList (s := s)]
  rw [encode, String.toByteArray_ofList]
  simp [List.utf8Encode]

/-- **Bytes are read as characters where characters stand, and as replacements elsewhere.** -/
theorem reads_decode (bytes : List UInt8) : Reads bytes (decode bytes).toList := by
  simp only [decode]
  cases h : String.fromUTF8? ⟨bytes.toArray⟩ with
  | none =>
    obtain ⟨cs, hcs, hreads⟩ := (reads_run bytes).1 []
    simp only [hcs, List.append_nil, List.reverse_reverse, String.toList_ofList]
    exact hreads
  | some s =>
    obtain rfl : encode s = bytes := by
      simp only [String.fromUTF8?, Option.dite_none_right_eq_some] at h
      obtain ⟨_, h⟩ := h
      simp only [String.fromUTF8, Option.some.injEq] at h
      rw [← h, encode]
    rw [encode_eq_flatMap]
    exact reads_chars _

/-- **The text of bytes is their one reading.** -/
theorem decode_eq_iff {bytes : List UInt8} {s : String} :
    decode bytes = s ↔ Reads bytes s.toList := by
  constructor
  · rintro rfl
    exact reads_decode bytes
  · intro h
    exact String.toList_inj.1 ((reads_decode bytes).unique h)

end RouterMenu.Text.Utf8
