import RouterMenu.Proofs.Wire.Framing

/-!
# Sentences come back from the bytes they were written as

Any number of sentences may be written one behind another, and other bytes may follow. As long as no
word is empty or too long, reading as many sentences as were written gives them back and leaves
what follows untouched (`decodeMany_encodeAll`). The bytes of a sentence are spelled out by
`Framed`: each word stands behind its length, and the length is written in the shortest of the
forms that can hold it (`Shortest`).
-/

namespace RouterMenu.Wire

/-! ## The forms of a length -/

namespace WordLength

/-- A form in which a length can be announced. -/
structure Form where
  /-- Added to the first byte; its leading ones tell the form. -/
  mark : UInt8
  /-- How many bytes follow the first one. -/
  following : Nat
  /-- The least length that the form cannot hold. -/
  bound : Nat

/-- The five forms there are. -/
def forms : List Form :=
  [⟨0x00, 0, 0x80⟩, ⟨0x80, 1, 0x4000⟩, ⟨0xC0, 2, 0x200000⟩, ⟨0xE0, 3, 0x10000000⟩,
    ⟨0xF0, 4, 0x100000000⟩]

/-- A length in a form, the most significant byte first. -/
def Form.announce (f : Form) (n : Nat) : List UInt8 :=
  (f.mark + byte n f.following) :: (List.range f.following).reverse.map (byte n)

theorem Form.length_announce (f : Form) (n : Nat) : (f.announce n).length = f.following + 1 := by
  simp [announce]

/-- The bytes are a length in one of the forms that can hold it, and none of these is shorter. -/
structure Shortest (n : Nat) (bytes : List UInt8) : Prop where
  form : ∃ f ∈ forms, n < f.bound ∧ bytes = f.announce n
  least : ∀ f ∈ forms, n < f.bound → bytes.length ≤ (f.announce n).length

/-- The first form that can hold a length is the shortest, as later ones have more bytes. -/
theorem Shortest.ofFirst {n : Nat} (shorter : List Form) {f : Form} {longer : List Form}
    (split : forms = shorter ++ f :: longer) (fits : n < f.bound)
    (small : ∀ g ∈ shorter, g.bound ≤ n) (wide : ∀ g ∈ longer, f.following ≤ g.following) :
    Shortest n (f.announce n) where
  form := ⟨f, by simp [split], fits, rfl⟩
  least := by
    intro g hg hfits
    rw [Form.length_announce, Form.length_announce]
    rw [split] at hg
    rcases List.mem_append.1 hg with hg | hg
    · exact absurd hfits (Nat.not_lt.2 (small g hg))
    · rcases List.mem_cons.1 hg with rfl | hg
      · exact Nat.le_refl _
      · exact Nat.succ_le_succ (wide g hg)

/-- **A length is written in its shortest form.** -/
theorem shortest_of_lt {n : Nat} (h : n < 0x100000000) : Shortest n (shortest n) := by
  unfold shortest
  split
  · next h0 =>
    have hbyte : (0x00 : UInt8) + byte n 0 = byte n 0 := UInt8.zero_add _
    have hfirst : [byte n 0] = (⟨0x00, 0, 0x80⟩ : Form).announce n := by
      rw [Form.announce, hbyte]
      rfl
    rw [hfirst]
    exact .ofFirst [] rfl h0 (by simp) (by simp)
  · next h0 =>
    split
    · next h1 =>
      exact .ofFirst (f := ⟨0x80, 1, 0x4000⟩) (forms.take 1) rfl h1
        (by simp [forms]; omega) (by simp)
    · next h1 =>
      split
      · next h2 =>
        exact .ofFirst (f := ⟨0xC0, 2, 0x200000⟩) (forms.take 2) rfl h2
          (by simp [forms]; omega) (by simp)
      · next h2 =>
        split
        · next h3 =>
          exact .ofFirst (f := ⟨0xE0, 3, 0x10000000⟩) (forms.take 3) rfl h3
            (by simp [forms]; omega) (by simp)
        · next h3 =>
          -- the last form has no room in its first byte
          have hbyte : (0xF0 : UInt8) + byte n 4 = 0xF0 := by
            have hp : Nat.pow 256 4 = 0x100000000 := rfl
            have hz : byte n 4 = 0 := by
              rw [byte, hp, Nat.div_eq_of_lt h]
              rfl
            rw [hz]
            rfl
          have hlast : [0xF0, byte n 3, byte n 2, byte n 1, byte n 0]
              = (⟨0xF0, 4, 0x100000000⟩ : Form).announce n := by
            rw [Form.announce, hbyte]
            rfl
          rw [hlast]
          exact .ofFirst (forms.take 4) rfl h (by simp [forms]; omega) (by simp)

end WordLength

namespace Framing

/-! ## Writing -/

/-- The bytes of a sentence: its words, each behind its length in the shortest form, and then a
word without bytes. -/
inductive Framed : List String → List UInt8 → Prop where
  | close : Framed [] [0]
  | word {word : String} {words : List String} {announcement bytes : List UInt8}
      (announced : WordLength.Shortest (Text.Utf8.encode word).length announcement)
      (framed : Framed words bytes) :
      Framed (word :: words) (announcement ++ (Text.Utf8.encode word ++ bytes))

/-- The word for want of a frame of which a sentence cannot be written, the first one. -/
def tooLong? (words : List String) : Option String :=
  words.find? fun word => maxWordLength < (Text.Utf8.encode word).length

/-- **A sentence cannot be written if a word of it is too long**, and the first such is reported. -/
theorem write_fault (words : List String) :
    (write words).fault =
      (tooLong? words).map fun word => .oversized (Text.Utf8.encode word).length := by
  induction words with
  | nil => rfl
  | cons word words ih =>
    by_cases hl : maxWordLength < (Text.Utf8.encode word).length
    · simp [write, WordLength.encode, tooLong?, hl]
    · have hskip : tooLong? (word :: words) = tooLong? words := by simp [tooLong?, hl]
      simp only [write, WordLength.encode, if_neg hl, hskip, ih]

theorem write_fault_eq_none {words : List String} :
    (write words).fault = none ↔
      ∀ word ∈ words, (Text.Utf8.encode word).length ≤ maxWordLength := by
  simp [write_fault, tooLong?]

theorem framed_write {words : List String} (h : (write words).fault = none) :
    Framed words (write words).bytes := by
  induction words with
  | nil => exact .close
  | cons word words ih =>
    have hfits := write_fault_eq_none.1 h
    have hword := hfits word (List.mem_cons_self ..)
    have hwords := write_fault_eq_none.2 fun w hw => hfits w (List.mem_cons_of_mem _ hw)
    simp only [write, WordLength.encode, if_neg (Nat.not_lt.2 hword)]
    refine .word (WordLength.shortest_of_lt (Nat.lt_of_le_of_lt hword ?_)) (ih hwords)
    decide

theorem encode_eq_ok {words : List String} {bytes : List UInt8} :
    encode words = .ok bytes ↔ (write words).fault = none ∧ (write words).bytes = bytes := by
  unfold encode
  cases hw : write words with
  | mk written fault => cases fault <;> simp

theorem encode_eq_error {words : List String} {e : FrameError} :
    encode words = .error e ↔ (write words).fault = some e := by
  unfold encode
  cases hw : write words with
  | mk written fault => cases fault <;> simp

theorem exists_encode_eq_error {words : List String} :
    (∃ e, encode words = .error e) ↔
      ∃ word ∈ words, maxWordLength < (Text.Utf8.encode word).length := by
  simp only [encode_eq_error, ← Option.ne_none_iff_exists', ne_eq, write_fault_eq_none]
  simp

/-- The bytes of sentences written one behind another. -/
def encodeAll : List (List String) → Except FrameError (List UInt8)
  | [] => .ok []
  | words :: sentences =>
    match encode words with
    | .error e => .error e
    | .ok frame =>
      match encodeAll sentences with
      | .error e => .error e
      | .ok frames => .ok (frame ++ frames)

/-! ## Reading back -/

/-- As many sentences, read one after another, and the bytes behind them; `none` if there are not
that many in full. -/
def decodeMany : Nat → List UInt8 → Except FrameError (Option (List (List String) × List UInt8))
  | 0, buffer => .ok (some ([], buffer))
  | n + 1, buffer =>
    match decode buffer with
    | .error e => .error e
    | .ok none => .ok none
    | .ok (some (words, rest)) =>
      match decodeMany n rest with
      | .error e => .error e
      | .ok none => .ok none
      | .ok (some (sentences, rest)) => .ok (some (words :: sentences, rest))

/-- A sentence that can be written and read: no word is empty, and none is too long. -/
def Sendable (words : List String) : Prop :=
  ∀ word ∈ words, word ≠ "" ∧ (Text.Utf8.encode word).length ≤ maxWordLength

theorem Sendable.fault {words : List String} (h : Sendable words) : (write words).fault = none :=
  write_fault_eq_none.2 fun word hw => (h word hw).2

theorem Sendable.decode_append {words : List String} (h : Sendable words) (rest : List UInt8) :
    decode ((write words).bytes ++ rest) = .ok (some (words, rest)) :=
  decode_write (fun word hw => (h word hw).1) h.fault rest

/-- **What was written is read back**, and nothing else is consumed. -/
theorem decodeMany_encodeAll {sentences : List (List String)}
    (h : ∀ words ∈ sentences, Sendable words) :
    ∃ bytes, encodeAll sentences = .ok bytes
      ∧ ∀ rest, decodeMany sentences.length (bytes ++ rest) = .ok (some (sentences, rest)) := by
  induction sentences with
  | nil => exact ⟨[], rfl, fun rest => rfl⟩
  | cons words sentences ih =>
    have hwords := h words (List.mem_cons_self ..)
    have hframe : encode words = .ok (write words).bytes := encode_eq_ok.2 ⟨hwords.fault, rfl⟩
    obtain ⟨frames, hframes, hback⟩ := ih fun w hw => h w (List.mem_cons_of_mem _ hw)
    refine ⟨(write words).bytes ++ frames, ?_, fun rest => ?_⟩
    · simp only [encodeAll, hframe, hframes]
    · simp only [List.length_cons, decodeMany, List.append_assoc, hwords.decode_append, hback]

/-- **Reading undoes writing.** Sentences without empty words and without words that are too long
are written one behind another, and whatever bytes follow, reading that many sentences gives them
back and leaves these bytes. The length of every word is written in the shortest form. And a
sentence cannot be written if a word of it is too long, and for no other reason. -/
theorem decode_undoes_encode {sentences : List (List String)}
    (sendable : ∀ words ∈ sentences, Sendable words) (rest : List UInt8) :
    (∃ bytes, encodeAll sentences = .ok bytes
        ∧ decodeMany sentences.length (bytes ++ rest) = .ok (some (sentences, rest)))
      ∧ (∀ words bytes, encode words = .ok bytes → Framed words bytes)
      ∧ ∀ words, (∃ e, encode words = .error e) ↔
        ∃ word ∈ words, maxWordLength < (Text.Utf8.encode word).length := by
  refine ⟨?_, fun words bytes h => ?_, fun words => exists_encode_eq_error⟩
  · obtain ⟨bytes, hbytes, hback⟩ := decodeMany_encodeAll sendable
    exact ⟨bytes, hbytes, hback rest⟩
  · obtain ⟨hfault, rfl⟩ := encode_eq_ok.1 h
    exact framed_write hfault

/-- A row with a line break in a value, and with a word the length of which takes two bytes. -/
def rowAndEnd : List (List String) :=
  [["!re", "=comment=a=b\n", "=source=" ++ "".pushn 'x' 300], ["!done"]]

/-- They are read back in front of a byte that begins no length. -/
theorem decode_undoes_encode_row :
    (∀ words ∈ rowAndEnd, Sendable words)
      ∧ ∃ bytes, encodeAll rowAndEnd = .ok bytes
        ∧ decodeMany 2 (bytes ++ [0xF8]) = .ok (some (rowAndEnd, [0xF8])) := by
  have hsendable : ∀ words ∈ rowAndEnd, Sendable words := by
    unfold Sendable
    decide +kernel
  exact ⟨hsendable, (decode_undoes_encode hsendable [0xF8]).1⟩

end Framing

end RouterMenu.Wire
