import RouterMenu.Wire.WordLength
import RouterMenu.Text.Utf8

/-!
# Sentences as bytes

A sentence is a run of words, each behind its length, closed by a word of length zero. Reading
starts over from the first byte of a sentence until all of it has arrived, so what is read does
not depend on how the bytes were delivered, and nothing is taken from the buffer before.
-/

namespace RouterMenu.Wire

/-- What lies at the start of a buffer. -/
inductive Piece where
  /-- A word of at least one byte, and the bytes after it. -/
  | word (bytes rest : List UInt8)
  /-- The end of a sentence, and the bytes after it. -/
  | close (rest : List UInt8)
  /-- The beginning of either. -/
  | incomplete
deriving DecidableEq, Repr

/-- The first piece of a buffer. -/
def Piece.first (buffer : List UInt8) : Except FrameError Piece :=
  match WordLength.decode buffer with
  | .error e => .error e
  | .ok none => .ok .incomplete
  | .ok (some ⟨length, width⟩) =>
    let body := buffer.drop width
    if length = 0 then .ok (.close body)
    else
      let word := body.take length
      if word.length < length then .ok .incomplete else .ok (.word word (body.drop length))

/-- A word that was read leaves less to read. -/
theorem Piece.first_word_lt {buffer word rest : List UInt8}
    (h : Piece.first buffer = .ok (.word word rest)) : rest.length < buffer.length := by
  unfold Piece.first at h
  split at h
  · simp at h
  · simp at h
  · next length width hd =>
    have hw : 0 < width := WordLength.decode_width_pos hd
    simp only at h
    split at h
    · simp at h
    · split at h
      · simp at h
      · next hz hl =>
        simp only [Except.ok.injEq, Piece.word.injEq] at h
        obtain ⟨-, rfl⟩ := h
        simp only [List.length_take, List.length_drop] at hl ⊢
        omega

/-- The end of a sentence that was read leaves less to read. -/
theorem Piece.first_close_lt {buffer rest : List UInt8}
    (h : Piece.first buffer = .ok (.close rest)) : rest.length < buffer.length := by
  unfold Piece.first at h
  split at h
  · simp at h
  · simp at h
  · next length width hd =>
    have hw : 0 < width := WordLength.decode_width_pos hd
    have hne : buffer ≠ [] := by
      intro hb
      subst hb
      simp [WordLength.decode] at hd
    have hpos : 0 < buffer.length := List.length_pos_iff.2 hne
    simp only at h
    split at h
    · simp only [Except.ok.injEq, Piece.close.injEq] at h
      subst h
      simp only [List.length_drop]
      omega
    · split at h <;> simp at h

namespace Framing

/-- The words up to the end of the first sentence, after those in `words`, latest first. -/
def collect (words : List (List UInt8)) (buffer : List UInt8) :
    Except FrameError (Option (List (List UInt8) × List UInt8)) :=
  match _h : Piece.first buffer with
  | .error e => .error e
  | .ok .incomplete => .ok none
  | .ok (.close rest) => .ok (some (words.reverse, rest))
  | .ok (.word word rest) => collect (word :: words) rest
termination_by buffer.length
decreasing_by exact Piece.first_word_lt _h

/-- The first sentence of a buffer and the bytes behind it; `none` while it is incomplete. -/
def decode (buffer : List UInt8) : Except FrameError (Option (List String × List UInt8)) :=
  match collect [] buffer with
  | .error e => .error e
  | .ok none => .ok none
  | .ok (some (words, rest)) => .ok (some (words.map Text.Utf8.decode, rest))

/-- Whatever words came before, a sentence read leaves less to read. -/
theorem collect_lt {words found : List (List UInt8)} {buffer rest : List UInt8}
    (h : collect words buffer = .ok (some (found, rest))) : rest.length < buffer.length := by
  fun_induction collect words buffer with
  | case1 => simp at h
  | case2 => simp at h
  | case3 words buffer rest' hp =>
    simp only [Except.ok.injEq, Option.some.injEq, Prod.mk.injEq] at h
    obtain ⟨-, rfl⟩ := h
    exact Piece.first_close_lt hp
  | case4 words buffer word rest' hp ih =>
    exact Nat.lt_trans (ih h) (Piece.first_word_lt hp)

/-- A sentence read leaves less to read. -/
theorem decode_lt {buffer rest : List UInt8} {words : List String}
    (h : decode buffer = .ok (some (words, rest))) : rest.length < buffer.length := by
  unfold decode at h
  split at h
  · simp at h
  · simp at h
  · next hc =>
    simp only [Except.ok.injEq, Option.some.injEq, Prod.mk.injEq] at h
    obtain ⟨-, rfl⟩ := h
    exact collect_lt hc

/-- What a buffer yields when it is read until more bytes are needed. -/
structure Drained where
  sentences : List (List String)
  fault : Option FrameError
  /-- The bytes not consumed; after a fault they begin with the offending sentence. -/
  rest : List UInt8

/-- Reads sentences until more bytes are needed or a fault is met. -/
def drain (buffer : List UInt8) : Drained :=
  match _h : decode buffer with
  | .error e => ⟨[], some e, buffer⟩
  | .ok none => ⟨[], none, buffer⟩
  | .ok (some (words, rest)) =>
    let later := drain rest
    { later with sentences := words :: later.sentences }
termination_by buffer.length
decreasing_by exact decode_lt _h

/-- The frame of a sentence as far as it can be written: up to a word that is too long. -/
structure Written where
  bytes : List UInt8
  fault : Option FrameError

/-- Writes words one after another, and the closing one unless a word is too long. -/
def write : List String → Written
  | [] => ⟨[0], none⟩
  | word :: rest =>
    let bytes := Text.Utf8.encode word
    match WordLength.encode bytes.length with
    | .error e => ⟨[], some e⟩
    | .ok announcement =>
      let later := write rest
      { later with bytes := announcement ++ (bytes ++ later.bytes) }

/-- The frame of a sentence. -/
def encode (words : List String) : Except FrameError (List UInt8) :=
  match write words with
  | ⟨bytes, none⟩ => .ok bytes
  | ⟨_, some e⟩ => .error e

end Framing

end RouterMenu.Wire
