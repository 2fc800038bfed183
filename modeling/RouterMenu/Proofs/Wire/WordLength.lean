import RouterMenu.Wire.WordLength

/-!
# An announced length is read back, whatever follows it

Two facts about the announcement of a word carry everything the framing needs. A length that has
been read stays read: it depends on the bytes that announce it and on nothing behind them, so
neither later bytes nor the loss of later bytes changes it. And the shortest form of a length
that fits is read back as that length, with its own number of bytes.
-/

namespace RouterMenu.Wire.WordLength

/-- How a length whose first byte has a form is read. -/
theorem decode_cons {first : UInt8} {rest : List UInt8} {following bits : Nat}
    (hf : form? first = some (following, bits)) :
    decode (first :: rest) =
      if (rest.take following).length < following then .ok none
      else if maxWordLength < (rest.take following).foldl (fun acc b => acc * 256 + b.toNat) bits
        then .error (.oversized
          ((rest.take following).foldl (fun acc b => acc * 256 + b.toNat) bits))
      else .ok (some ⟨(rest.take following).foldl (fun acc b => acc * 256 + b.toNat) bits,
        following + 1⟩) := by
  simp only [decode, hf]

/-- What has been read, or refused, does not change when more bytes arrive. -/
theorem decode_append {bytes : List UInt8} (more : List UInt8) (h : decode bytes ≠ .ok none) :
    decode (bytes ++ more) = decode bytes := by
  cases bytes with
  | nil => exact absurd rfl h
  | cons first rest =>
    rw [List.cons_append]
    cases hf : form? first with
    | none => simp only [decode, hf]
    | some form =>
      obtain ⟨following, bits⟩ := form
      rw [decode_cons hf] at h
      rw [decode_cons hf, decode_cons hf]
      by_cases hl : (rest.take following).length < following
      · rw [if_pos hl] at h
        exact absurd rfl h
      · -- all the bytes of the announcement are there already
        have hle : following ≤ rest.length := by
          rw [List.length_take] at hl
          omega
        rw [List.take_append_of_le_length hle]

/-- The bytes that announce a length are there, and no others are looked at. -/
theorem decode_take {bytes : List UInt8} {a : Announced} (h : decode bytes = .ok (some a)) :
    a.width ≤ bytes.length ∧ decode (bytes.take a.width) = .ok (some a) := by
  cases bytes with
  | nil => simp [decode] at h
  | cons first rest =>
    cases hf : form? first with
    | none => simp [decode, hf] at h
    | some form =>
      obtain ⟨following, bits⟩ := form
      rw [decode_cons hf] at h
      split at h
      · simp at h
      · next hl =>
        split at h
        · simp at h
        · next hm =>
          simp only [Except.ok.injEq, Option.some.injEq] at h
          subst h
          refine ⟨?_, ?_⟩
          · rw [List.length_take] at hl
            simp only [List.length_cons]
            omega
          · -- the bytes behind the announcement were not looked at
            rw [List.take_succ_cons, decode_cons hf, List.take_take, Nat.min_self, if_neg hl,
              if_neg hm]

theorem byte_toNat (n k : Nat) : (byte n k).toNat = n / Nat.pow 256 k % 256 := by
  unfold byte
  rw [UInt8.toNat_ofNat']
  omega

/-- A length within the limit is read from any form of it that is complete. -/
theorem decode_complete {first : UInt8} {rest : List UInt8} {n : Nat} (following : List UInt8)
    (bits : Nat) (hf : form? first = some (following.length, bits))
    (hv : following.foldl (fun acc b => acc * 256 + b.toNat) bits = n) (hn : n ≤ maxWordLength) :
    decode (first :: (following ++ rest)) = .ok (some ⟨n, following.length + 1⟩) := by
  rw [decode_cons hf, List.take_left, if_neg (Nat.lt_irrefl _), hv, if_neg (Nat.not_lt.2 hn)]

/-- A length within the limit is read back from its shortest form, and so is the number of bytes
that announced it. -/
theorem decode_shortest_append {n : Nat} (h : n ≤ maxWordLength) (rest : List UInt8) :
    decode (shortest n ++ rest) = .ok (some ⟨n, (shortest n).length⟩) := by
  have hbound : n ≤ 16 * 1024 * 1024 := h
  have hp0 : Nat.pow 256 0 = 1 := rfl
  have hp1 : Nat.pow 256 1 = 256 := rfl
  have hp2 : Nat.pow 256 2 = 65536 := rfl
  have hp3 : Nat.pow 256 3 = 16777216 := rfl
  unfold shortest
  -- one case for each form; the limit rules the last one out
  split
  · next h0 =>
    have hb : (byte n 0).toNat = n := by rw [byte_toNat, hp0]; omega
    refine decode_complete [] n ?_ rfl h
    simp only [form?, hb, if_pos h0, List.length_nil]
  · split
    · next h0 h1 =>
      have hb : (0x80 + byte n 1).toNat = 0x80 + n / 256 := by
        rw [UInt8.toNat_add, byte_toNat, hp1]
        have : (0x80 : UInt8).toNat = 0x80 := rfl
        omega
      refine decode_complete [byte n 0] (n / 256) ?_ ?_ h
      · simp only [form?, hb]
        rw [if_neg (by omega), if_pos (by omega), Nat.add_sub_cancel_left]
        rfl
      · simp only [List.foldl_cons, List.foldl_nil, byte_toNat, hp0]
        omega
    · split
      · next h0 h1 h2 =>
        have hb : (0xC0 + byte n 2).toNat = 0xC0 + n / 65536 := by
          rw [UInt8.toNat_add, byte_toNat, hp2]
          have : (0xC0 : UInt8).toNat = 0xC0 := rfl
          omega
        refine decode_complete [byte n 1, byte n 0] (n / 65536) ?_ ?_ h
        · simp only [form?, hb]
          rw [if_neg (by omega), if_neg (by omega), if_pos (by omega), Nat.add_sub_cancel_left]
          rfl
        · simp only [List.foldl_cons, List.foldl_nil, byte_toNat, hp0, hp1]
          omega
      · split
        · next h0 h1 h2 h3 =>
          have hb : (0xE0 + byte n 3).toNat = 0xE0 + n / 16777216 := by
            rw [UInt8.toNat_add, byte_toNat, hp3]
            have : (0xE0 : UInt8).toNat = 0xE0 := rfl
            omega
          refine decode_complete [byte n 2, byte n 1, byte n 0] (n / 16777216) ?_ ?_ h
          · simp only [form?, hb]
            rw [if_neg (by omega), if_neg (by omega), if_neg (by omega), if_pos (by omega),
              Nat.add_sub_cancel_left]
            rfl
          · simp only [List.foldl_cons, List.foldl_nil, byte_toNat, hp0, hp1, hp2]
            omega
        · omega

end RouterMenu.Wire.WordLength
