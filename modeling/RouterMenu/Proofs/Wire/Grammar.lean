import Mathlib.Algebra.Group.Nat.Defs
import Mathlib.Data.List.Forall2
import RouterMenu.Proofs.Text.Utf8
import RouterMenu.Proofs.Wire.Delivery
import RouterMenu.Proofs.Wire.RoundTrip

/-!
# The grammar of frames

A buffer holds words, each behind an announcement of its length, and a sentence ends where a word
without bytes is announced. A length may be announced in any form that can hold it
(`WordLength.Announces`), so the end of a sentence has five spellings, and so has each short word.

Three things can be said of a buffer: it begins with a sentence (`Framing.Begins`), it breaks off
behind complete words with bytes that can never announce one (`Framing.Breaks`), or neither, and
then more bytes are needed. Reading tells the three apart for every buffer, and only a sentence that
was read is taken out of it (`Framing.decode_grammar`).
-/

namespace RouterMenu.Wire

/-! ## Announcements -/

namespace WordLength

/-- The bytes announce a length, in a form that can hold it, be it the shortest or not. -/
def Announces (bytes : List UInt8) (n : Nat) : Prop :=
  ∃ f ∈ forms, n < f.bound ∧ bytes = f.announce n

/-- The number that bytes make up, behind the bits in front of them. -/
def number (bits : Nat) (bytes : List UInt8) : Nat :=
  bytes.foldl (fun acc b => acc * 256 + b.toNat) bits

/-- The lower bytes of a number. -/
def lower (n k : Nat) : List UInt8 := (List.range k).reverse.map (byte n)

theorem length_lower (n k : Nat) : (lower n k).length = k := by simp [lower]

theorem lower_succ (n k : Nat) : lower n (k + 1) = byte n k :: lower n k := by
  simp [lower, List.range_succ]

theorem number_lower (n k : Nat) : number (n / 256 ^ k) (lower n k) = n := by
  induction k with
  | zero => simp [lower, number]
  | succ k ih =>
    have hstep : n / 256 ^ (k + 1) * 256 + (byte n k).toNat = n / 256 ^ k := by
      rw [byte_toNat, Nat.pow_succ, ← Nat.div_div_eq_div_mul]
      exact Nat.div_add_mod' ..
    rw [lower_succ, number, List.foldl_cons, hstep]
    exact ih

/-- Bytes are the lower ones of the number that they make up, and the bits its upper part. -/
theorem eq_lower_of_number {bits n : Nat} {bytes : List UInt8} (h : number bits bytes = n) :
    bytes = lower n bytes.length ∧ n / 256 ^ bytes.length = bits := by
  induction bytes generalizing bits with
  | nil => exact ⟨rfl, by simpa [number] using h.symm⟩
  | cons b bytes ih =>
    -- the first byte is the lowest one of what the others leave of the number
    have hnumber : number (bits * 256 + b.toNat) bytes = n := h
    obtain ⟨hbytes, hupper⟩ := ih hnumber
    have hb : b.toNat < 256 := b.toNat_lt
    have hbyte : byte n bytes.length = b := by
      apply UInt8.toNat_inj.1
      rw [byte_toNat, show n / Nat.pow 256 bytes.length = bits * 256 + b.toNat from hupper]
      omega
    refine ⟨?_, ?_⟩
    · rw [List.length_cons, lower_succ, hbyte, ← hbytes]
    · rw [List.length_cons, Nat.pow_succ, ← Nat.div_div_eq_div_mul, hupper]
      omega

/-- What a first byte says belongs to one of the forms, and fits into it. -/
theorem form?_eq_some_iff {b : UInt8} {k bits : Nat} :
    form? b = some (k, bits) ↔
      ∃ f ∈ forms, f.following = k ∧ b.toNat = f.mark.toNat + bits ∧ bits * 256 ^ k < f.bound := by
  have hb : b.toNat < 256 := b.toNat_lt
  constructor
  · intro h
    -- form by form, each tried when the byte is below the mark of the next
    simp only [form?] at h
    split at h
    · obtain ⟨rfl, rfl⟩ := Prod.mk.inj (Option.some.inj h)
      exact ⟨⟨0x00, 0, 0x80⟩, by simp [forms], rfl, by simp, by simp; omega⟩
    · split at h
      · obtain ⟨rfl, rfl⟩ := Prod.mk.inj (Option.some.inj h)
        exact ⟨⟨0x80, 1, 0x4000⟩, by simp [forms], rfl, by simp; omega, by simp; omega⟩
      · split at h
        · obtain ⟨rfl, rfl⟩ := Prod.mk.inj (Option.some.inj h)
          exact ⟨⟨0xC0, 2, 0x200000⟩, by simp [forms], rfl, by simp; omega, by simp; omega⟩
        · split at h
          · obtain ⟨rfl, rfl⟩ := Prod.mk.inj (Option.some.inj h)
            exact ⟨⟨0xE0, 3, 0x10000000⟩, by simp [forms], rfl, by simp; omega, by simp; omega⟩
          · split at h
            · obtain ⟨rfl, rfl⟩ := Prod.mk.inj (Option.some.inj h)
              exact ⟨⟨0xF0, 4, 0x100000000⟩, by simp [forms], rfl, by simp; omega, by simp⟩
            · simp at h
  · rintro ⟨f, hf, rfl, hm, hbits⟩
    simp only [forms, List.mem_cons, List.not_mem_nil, or_false] at hf
    rcases hf with rfl | rfl | rfl | rfl | rfl <;> simp at hm hbits <;> simp only [form?]
    · rw [if_pos (by omega), hm]
    · rw [if_neg (by omega), if_pos (by omega), hm, Nat.add_sub_cancel_left]
    · rw [if_neg (by omega), if_neg (by omega), if_pos (by omega), hm, Nat.add_sub_cancel_left]
    · rw [if_neg (by omega), if_neg (by omega), if_neg (by omega), if_pos (by omega), hm,
        Nat.add_sub_cancel_left]
    · rw [if_neg (by omega), if_neg (by omega), if_neg (by omega), if_neg (by omega),
        if_pos (by omega)]
      congr 2
      omega

theorem form?_eq_none_iff {b : UInt8} : form? b = none ↔ 0xF1 ≤ b.toNat := by
  simp only [form?]
  split
  · simp; omega
  · split
    · simp; omega
    · split
      · simp; omega
      · split
        · simp; omega
        · split
          · simp; omega
          · simp; omega

/-- The first byte of a form with the upper part of a length that it can hold. -/
theorem Form.mark_add_byte {f : Form} (hf : f ∈ forms) {n : Nat} (h : n < f.bound) :
    (f.mark + byte n f.following).toNat = f.mark.toNat + n / 256 ^ f.following := by
  rw [UInt8.toNat_add, byte_toNat]
  simp only [forms, List.mem_cons, List.not_mem_nil, or_false] at hf
  rcases hf with rfl | rfl | rfl | rfl | rfl <;> simp at h ⊢ <;> omega

/-- **An announcement is a first byte and as many more as it calls for**, which make up the length
behind the bits of the first one. -/
theorem announces_cons_iff {first : UInt8} {more : List UInt8} {n : Nat} :
    Announces (first :: more) n ↔
      ∃ bits, form? first = some (more.length, bits) ∧ number bits more = n := by
  constructor
  · rintro ⟨f, hf, hn, h⟩
    obtain ⟨hfirst, hmore⟩ := List.cons.inj h
    have hmore' : more = lower n f.following := hmore
    have hlength : more.length = f.following := by rw [hmore', length_lower]
    refine ⟨n / 256 ^ f.following, form?_eq_some_iff.2 ⟨f, hf, hlength.symm, ?_, ?_⟩, ?_⟩
    · rw [hfirst, Form.mark_add_byte hf hn]
    · rw [hlength]
      exact Nat.lt_of_le_of_lt (Nat.div_mul_le_self ..) hn
    · rw [hmore', number_lower]
  · rintro ⟨bits, hform, hnumber⟩
    obtain ⟨f, hf, hlength, hfirst, hbits⟩ := form?_eq_some_iff.1 hform
    obtain ⟨hmore, hupper⟩ := eq_lower_of_number hnumber
    -- the bits of the first byte keep the number below the bound of its form
    have hn : n < f.bound := by
      rw [← hlength] at hupper hbits
      simp only [forms, List.mem_cons, List.not_mem_nil, or_false] at hf
      rcases hf with rfl | rfl | rfl | rfl | rfl <;> simp at hupper hbits ⊢ <;> omega
    refine ⟨f, hf, hn, ?_⟩
    rw [Form.announce]
    congr 1
    · apply UInt8.toNat_inj.1
      rw [Form.mark_add_byte hf hn, hlength, hupper, hfirst]
    · rw [hlength]
      exact hmore

theorem announces_ne_nil {bytes : List UInt8} {n : Nat} (h : Announces bytes n) : bytes ≠ [] := by
  obtain ⟨f, -, -, rfl⟩ := h
  simp [Form.announce]

/-- How bytes begin that neither announce the length of a word nor can ever do so. -/
inductive Misbegins : List UInt8 → FrameError → Prop where
  | reserved {b : UInt8} (high : 0xF1 ≤ b.toNat) (rest : List UInt8) :
      Misbegins (b :: rest) (.reserved b)
  | oversized {head : List UInt8} {n : Nat} (announced : Announces head n)
      (large : maxWordLength < n) (rest : List UInt8) : Misbegins (head ++ rest) (.oversized n)

/-- A complete announcement is read, and refused if the length is too large. -/
theorem decode_announced {head : List UInt8} {n : Nat} (h : Announces head n) (rest : List UInt8) :
    decode (head ++ rest) =
      if maxWordLength < n then .error (.oversized n) else .ok (some ⟨n, head.length⟩) := by
  cases head with
  | nil => exact absurd rfl (announces_ne_nil h)
  | cons first more =>
    obtain ⟨bits, hform, hnumber⟩ := announces_cons_iff.1 h
    have hn : more.foldl (fun acc b => acc * 256 + b.toNat) bits = n := hnumber
    rw [List.cons_append, decode_cons hform, List.take_left, if_neg (Nat.lt_irrefl _), hn]
    rfl

/-- A length that was read was announced. -/
theorem announces_of_decode {buffer : List UInt8} {a : Announced}
    (h : decode buffer = .ok (some a)) :
    a.length ≤ maxWordLength ∧
      ∃ head rest, buffer = head ++ rest ∧ head.length = a.width ∧ Announces head a.length := by
  cases buffer with
  | nil => simp [decode] at h
  | cons first rest =>
    cases hf : form? first with
    | none => simp [decode, hf] at h
    | some form =>
      obtain ⟨following, bits⟩ := form
      rw [decode_cons hf] at h
      split at h
      · simp at h
      · next hl =>
        -- all bytes that the first one calls for are there
        have hlength : (rest.take following).length = following := by
          rw [List.length_take] at hl ⊢
          omega
        split at h
        · simp at h
        · next hm =>
          simp only [Except.ok.injEq, Option.some.injEq] at h
          subst h
          refine ⟨Nat.not_lt.1 hm, first :: rest.take following, rest.drop following, ?_, ?_, ?_⟩
          · rw [List.cons_append, List.take_append_drop]
          · rw [List.length_cons, hlength]
          · exact announces_cons_iff.2 ⟨bits, by rw [hf, hlength], rfl⟩

theorem misbegins_of_decode {buffer : List UInt8} {e : FrameError} (h : decode buffer = .error e) :
    Misbegins buffer e := by
  cases buffer with
  | nil => simp [decode] at h
  | cons first rest =>
    cases hf : form? first with
    | none =>
      simp only [decode, hf, Except.error.injEq] at h
      subst h
      exact .reserved (form?_eq_none_iff.1 hf) rest
    | some form =>
      obtain ⟨following, bits⟩ := form
      rw [decode_cons hf] at h
      split at h
      · simp at h
      · next hl =>
        have hlength : (rest.take following).length = following := by
          rw [List.length_take] at hl ⊢
          omega
        split at h
        · next hm =>
          simp only [Except.error.injEq] at h
          subst h
          -- the announcement is whole, and it is what it announces that is too long
          have hannounced : Announces (first :: rest.take following)
              (number bits (rest.take following)) :=
            announces_cons_iff.2 ⟨bits, by rw [hf, hlength], rfl⟩
          have := Misbegins.oversized hannounced hm (rest.drop following)
          rwa [List.cons_append, List.take_append_drop] at this
        · simp at h

theorem decode_of_misbegins {buffer : List UInt8} {e : FrameError} (h : Misbegins buffer e) :
    decode buffer = .error e := by
  cases h with
  | reserved high rest => simp only [decode, form?_eq_none_iff.2 high]
  | oversized announced large rest => rw [decode_announced announced, if_pos large]

end WordLength

/-! ## Pieces -/

open WordLength

namespace Piece

/-- The piece behind a complete announcement depends on the length and on what comes next. -/
theorem first_of_announces {head : List UInt8} {n : Nat} (h : Announces head n)
    (fits : n ≤ maxWordLength) (body : List UInt8) :
    first (head ++ body) =
      if n = 0 then .ok (.close body)
      else if (body.take n).length < n then .ok .incomplete
      else .ok (.word (body.take n) (body.drop n)) := by
  have hd := decode_announced h []
  rw [if_neg (Nat.not_lt.2 fits), List.append_nil] at hd
  exact first_announced hd body

theorem first_word {head word : List UInt8} (announced : Announces head word.length)
    (nonempty : word ≠ []) (fits : word.length ≤ maxWordLength) (rest : List UInt8) :
    first (head ++ (word ++ rest)) = .ok (.word word rest) := by
  have hne : word.length ≠ 0 := fun h => nonempty (List.length_eq_zero_iff.1 h)
  rw [first_of_announces announced fits, if_neg hne, List.take_left, List.drop_left,
    if_neg (Nat.lt_irrefl _)]

theorem first_close {head : List UInt8} (announced : Announces head 0) (rest : List UInt8) :
    first (head ++ rest) = .ok (.close rest) := by
  rw [first_of_announces announced (Nat.zero_le _), if_pos rfl]

theorem first_error {buffer : List UInt8} {e : FrameError} (h : Misbegins buffer e) :
    first buffer = .error e := by
  simp only [first, decode_of_misbegins h]

/-- How a piece that was found begins. -/
theorem announced_of_first {buffer : List UInt8} {piece : Piece} (h : first buffer = .ok piece)
    (found : piece ≠ .incomplete) :
    ∃ head n body, buffer = head ++ body ∧ Announces head n ∧ n ≤ maxWordLength := by
  cases hd : WordLength.decode buffer with
  | error e => simp [first, hd] at h
  | ok a? =>
    cases a? with
    | none =>
      simp only [first, hd, Except.ok.injEq] at h
      exact absurd h.symm found
    | some a =>
      obtain ⟨hfits, head, body, hbuffer, -, hannounced⟩ := announces_of_decode hd
      exact ⟨head, a.length, body, hbuffer, hannounced, hfits⟩

theorem word_of_first {buffer word rest : List UInt8} (h : first buffer = .ok (.word word rest)) :
    word ≠ [] ∧ word.length ≤ maxWordLength ∧
      ∃ head, Announces head word.length ∧ buffer = head ++ (word ++ rest) := by
  obtain ⟨head, n, body, rfl, hannounced, hfits⟩ := announced_of_first h (by simp)
  rw [first_of_announces hannounced hfits] at h
  split at h
  · simp at h
  · next hn =>
    split at h
    · simp at h
    · next hl =>
      simp only [Except.ok.injEq, Piece.word.injEq] at h
      obtain ⟨rfl, rfl⟩ := h
      -- the word is all there, for otherwise nothing is found
      have hlength : (body.take n).length = n := by
        rw [List.length_take] at hl ⊢
        omega
      refine ⟨?_, ?_, head, ?_, ?_⟩
      · intro hnil
        rw [hnil] at hlength
        exact hn hlength.symm
      · rwa [hlength]
      · rwa [hlength]
      · rw [List.take_append_drop]

theorem close_of_first {buffer rest : List UInt8} (h : first buffer = .ok (.close rest)) :
    ∃ head, Announces head 0 ∧ buffer = head ++ rest := by
  obtain ⟨head, n, body, rfl, hannounced, hfits⟩ := announced_of_first h (by simp)
  rw [first_of_announces hannounced hfits] at h
  split at h
  · next hn =>
    simp only [Except.ok.injEq, Piece.close.injEq] at h
    exact ⟨head, hn ▸ hannounced, by rw [h]⟩
  · split at h <;> simp at h

theorem misbegins_of_first {buffer : List UInt8} {e : FrameError} (h : first buffer = .error e) :
    Misbegins buffer e := by
  cases hd : WordLength.decode buffer with
  | error e' =>
    simp only [first, hd, Except.error.injEq] at h
    exact h ▸ misbegins_of_decode hd
  | ok a? =>
    cases a? with
    | none => simp [first, hd] at h
    | some a =>
      simp only [first, hd] at h
      split at h
      · simp at h
      · split at h <;> simp at h

end Piece

/-! ## Sentences -/

namespace Framing

/-- Bytes are complete words one behind another, none of them empty, each behind its length. -/
inductive Words : List UInt8 → List (List UInt8) → Prop where
  | nil : Words [] []
  | cons {head word bytes : List UInt8} {words : List (List UInt8)}
      (announced : Announces head word.length) (nonempty : word ≠ [])
      (fits : word.length ≤ maxWordLength) (rest : Words bytes words) :
      Words (head ++ (word ++ bytes)) (word :: words)

/-- A buffer begins with a sentence of these words: behind the words stands an announcement of a
word without bytes, and then the rest. -/
def Begins (buffer : List UInt8) (words : List (List UInt8)) (rest : List UInt8) : Prop :=
  ∃ body close, Words body words ∧ Announces close 0 ∧ buffer = body ++ (close ++ rest)

/-- Behind complete words, and before the end of a sentence, a buffer goes on in a way that no word
can begin. -/
def Breaks (buffer : List UInt8) (e : FrameError) : Prop :=
  ∃ body words tail, Words body words ∧ Misbegins tail e ∧ buffer = body ++ tail

/-- Complete words are collected, whatever comes behind them. -/
theorem collect_words {body : List UInt8} {words : List (List UInt8)} (h : Words body words)
    (before : List (List UInt8)) (tail : List UInt8) :
    collect before (body ++ tail) = collect (words.reverse ++ before) tail := by
  induction h generalizing before with
  | nil => rfl
  | @cons head word bytes words announced nonempty fits rest ih =>
    rw [List.append_assoc, List.append_assoc,
      collect_of_word (Piece.first_word announced nonempty fits _), ih, List.reverse_cons,
      List.append_assoc]
    rfl

theorem begins_of_collect {before found : List (List UInt8)} {buffer rest : List UInt8}
    (h : collect before buffer = .ok (some (found, rest))) :
    ∃ words, found = before.reverse ++ words ∧ Begins buffer words rest := by
  -- piece by piece; the words found so far are held latest first
  fun_induction collect before buffer with
  | case1 => simp at h
  | case2 => simp at h
  | case3 before buffer rest' hp =>
    simp only [Except.ok.injEq, Option.some.injEq, Prod.mk.injEq] at h
    obtain ⟨rfl, rfl⟩ := h
    obtain ⟨close, hclose, hbuffer⟩ := Piece.close_of_first hp
    exact ⟨[], (List.append_nil _).symm, [], close, .nil, hclose, hbuffer⟩
  | case4 before buffer word rest' hp ih =>
    obtain ⟨hne, hfits, head, hannounced, rfl⟩ := Piece.word_of_first hp
    obtain ⟨words, hfound, body, close, hbody, hclose, rfl⟩ := ih h
    refine ⟨word :: words, ?_, head ++ (word ++ body), close, .cons hannounced hne hfits hbody,
      hclose, by simp only [List.append_assoc]⟩
    rw [hfound, List.reverse_cons, List.append_assoc]
    rfl

theorem breaks_of_collect {before : List (List UInt8)} {buffer : List UInt8} {e : FrameError}
    (h : collect before buffer = .error e) : Breaks buffer e := by
  fun_induction collect before buffer with
  | case1 before buffer e' hp =>
    rw [Except.error.injEq] at h
    exact ⟨[], [], buffer, .nil, h ▸ Piece.misbegins_of_first hp, rfl⟩
  | case2 => simp at h
  | case3 => simp at h
  | case4 before buffer word rest' hp ih =>
    obtain ⟨hne, hfits, head, hannounced, rfl⟩ := Piece.word_of_first hp
    obtain ⟨body, words, tail, hbody, htail, rfl⟩ := ih h
    exact ⟨head ++ (word ++ body), word :: words, tail, .cons hannounced hne hfits hbody, htail,
      by simp only [List.append_assoc]⟩

/-- **A sentence is read exactly where one begins.** -/
theorem decode_eq_some_iff {buffer rest : List UInt8} {texts : List String} :
    decode buffer = .ok (some (texts, rest)) ↔
      ∃ words, Begins buffer words rest ∧ texts = words.map Text.Utf8.decode := by
  constructor
  · intro h
    cases hc : collect [] buffer with
    | error e => simp [decode, hc] at h
    | ok found? =>
      cases found? with
      | none => simp [decode, hc] at h
      | some found =>
        obtain ⟨found, rest'⟩ := found
        simp only [decode, hc, Except.ok.injEq, Option.some.injEq, Prod.mk.injEq] at h
        obtain ⟨rfl, rfl⟩ := h
        obtain ⟨words, hfound, hbegins⟩ := begins_of_collect hc
        exact ⟨words, hbegins, by rw [hfound, List.reverse_nil, List.nil_append]⟩
  · rintro ⟨words, ⟨body, close, hbody, hclose, rfl⟩, rfl⟩
    simp only [decode, collect_words hbody, collect_of_close (Piece.first_close hclose rest),
      List.append_nil, List.reverse_reverse]

/-- **A fault is found exactly where words break off.** -/
theorem decode_eq_error_iff {buffer : List UInt8} {e : FrameError} :
    decode buffer = .error e ↔ Breaks buffer e := by
  constructor
  · intro h
    cases hc : collect [] buffer with
    | error e' =>
      simp only [decode, hc, Except.error.injEq] at h
      exact h ▸ breaks_of_collect hc
    | ok found? => cases found? <;> simp [decode, hc] at h
  · rintro ⟨body, words, tail, hbody, htail, rfl⟩
    simp only [decode, collect_words hbody, collect_of_error (Piece.first_error htail)]

theorem decode_eq_none_iff {buffer : List UInt8} :
    decode buffer = .ok none ↔
      (∀ words rest, ¬ Begins buffer words rest) ∧ ∀ e, ¬ Breaks buffer e := by
  constructor
  · intro h
    refine ⟨fun words rest hbegins => ?_, fun e hbreaks => ?_⟩
    · have := h.symm.trans (decode_eq_some_iff.2 ⟨words, hbegins, rfl⟩)
      simp at this
    · have := h.symm.trans (decode_eq_error_iff.2 hbreaks)
      simp at this
  · rintro ⟨hbegins, hbreaks⟩
    -- the two other results are excluded, each by its own grammar
    cases h : decode buffer with
    | error e => exact absurd (decode_eq_error_iff.1 h) (hbreaks e)
    | ok found? =>
      cases found? with
      | none => rfl
      | some found =>
        obtain ⟨words, hwords, -⟩ := decode_eq_some_iff.1 h
        exact absurd hwords (hbegins words found.2)

/-- Texts are those of the words, one by one. -/
theorem eq_map_decode_iff {words : List (List UInt8)} {texts : List String} :
    texts = words.map Text.Utf8.decode ↔
      List.Forall₂ (fun word text => Text.Utf8.Reads word text.toList) words texts := by
  induction words generalizing texts with
  | nil => simp
  | cons word words ih =>
    cases texts with
    | nil => simp
    | cons text texts =>
      rw [List.map_cons, List.cons.injEq, List.forall₂_cons, ih, ← Text.Utf8.decode_eq_iff, eq_comm]

/-- A sentence that was read is taken out of the buffer. -/
theorem next_of_begins {i : Inbox} {words : List (List UInt8)} {rest : List UInt8}
    (reading : i.readable = true ∧ i.stopped = false) (h : Begins i.buffer words rest) :
    i.next = ({ i with buffer := rest }, .sentence (words.map Text.Utf8.decode)) := by
  have hd := decode_eq_some_iff.2 ⟨words, h, rfl⟩
  simp only [Inbox.next, reading.1, reading.2, hd]
  rfl

/-- Where no sentence begins the buffer stays as it is. -/
theorem next_of_not_begins {i : Inbox} (h : ∀ words rest, ¬ Begins i.buffer words rest) :
    i.next.1.buffer = i.buffer := by
  unfold Inbox.next
  split
  · rfl
  · split
    · rfl
    · split
      · rfl
      · next hd =>
        obtain ⟨words, hbegins, -⟩ := decode_eq_some_iff.1 hd
        exact absurd hbegins (h words _)
      · split
        · rfl
        · split <;> rfl

/-- **What is read of a buffer is what the grammar of frames says.** A sentence is found exactly
where the buffer begins with one, and its words are those of the grammar, in order, each read as
the text that it is; a fault is found exactly where complete words break off; and otherwise nothing
is found. The buffer loses the sentence, up to and including the announcement that closes it, and
nothing in the other two cases. -/
theorem decode_grammar (buffer : List UInt8) :
    (∀ texts rest, decode buffer = .ok (some (texts, rest)) ↔
        ∃ words, Begins buffer words rest ∧
          List.Forall₂ (fun word text => Text.Utf8.Reads word text.toList) words texts)
      ∧ (∀ e, decode buffer = .error e ↔ Breaks buffer e)
      ∧ (decode buffer = .ok none ↔
          (∀ words rest, ¬ Begins buffer words rest) ∧ ∀ e, ¬ Breaks buffer e)
      ∧ (∀ i : Inbox, i.buffer = buffer →
          (∀ words rest, i.readable = true ∧ i.stopped = false → Begins buffer words rest →
            i.next = ({ i with buffer := rest }, .sentence (words.map Text.Utf8.decode)))
          ∧ ((∀ words rest, ¬ Begins buffer words rest) → i.next.1.buffer = buffer))
      ∧ ∀ text : String, Text.Utf8.decode (Text.Utf8.encode text) = text := by
  refine ⟨fun texts rest => ?_, fun e => decode_eq_error_iff, decode_eq_none_iff, ?_,
    Text.Utf8.decode_encode⟩
  · simp only [decode_eq_some_iff, eq_map_decode_iff]
  · rintro i rfl
    exact ⟨fun words rest => next_of_begins, next_of_not_begins⟩

/-- Both lengths are announced at greater length than they need, and the word is no text. -/
theorem decode_grammar_long_forms :
    Begins [0xC0, 0x00, 0x01, 0xFF, 0x80, 0x00, 0x05, 0x21] [[0xFF]] [0x05, 0x21]
      ∧ decode [0xC0, 0x00, 0x01, 0xFF, 0x80, 0x00, 0x05, 0x21]
          = .ok (some (["\uFFFD"], [0x05, 0x21]))
      ∧ (Inbox.next ⟨[0xC0, 0x00, 0x01, 0xFF, 0x80, 0x00, 0x05, 0x21], false, true, false⟩).1.buffer
          = [0x05, 0x21] := by
  have hword : Announces [0xC0, 0x00, 0x01] [(0xFF : UInt8)].length :=
    ⟨⟨0xC0, 2, 0x200000⟩, by simp [forms], by decide, rfl⟩
  have hclose : Announces [0x80, 0x00] 0 := ⟨⟨0x80, 1, 0x4000⟩, by simp [forms], by decide, rfl⟩
  have hwords : Words [0xC0, 0x00, 0x01, 0xFF] [[0xFF]] :=
    .cons hword (List.cons_ne_nil _ _) (by decide) .nil
  have hbegins : Begins [0xC0, 0x00, 0x01, 0xFF, 0x80, 0x00, 0x05, 0x21] [[0xFF]] [0x05, 0x21] :=
    ⟨[0xC0, 0x00, 0x01, 0xFF], [0x80, 0x00], hwords, hclose, rfl⟩
  have hreads : Text.Utf8.Reads [0xFF] "\uFFFD".toList :=
    .broken (.stray (Text.Utf8.ne_cons_of_lead (by decide) rfl)) .nil
  obtain ⟨hsome, -, -, hnext, -⟩ :=
    decode_grammar [0xC0, 0x00, 0x01, 0xFF, 0x80, 0x00, 0x05, 0x21]
  refine ⟨hbegins, (hsome _ _).2 ⟨_, hbegins, .cons hreads .nil⟩, ?_⟩
  rw [(hnext _ rfl).1 _ _ ⟨rfl, rfl⟩ hbegins]

end Framing

end RouterMenu.Wire
