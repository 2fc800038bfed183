import Mathlib.Data.List.Induction
import RouterMenu.Proofs.Wire.Framing
import RouterMenu.Gateway.Inbox

/-!
# A stream reads the same however it is cut

Bytes come in chunks, and a chunk may end anywhere: within a length, within a word, in front of a
byte that begins no length. `deliver` takes the chunks in as they come and reads after each of them
what can be read. Two facts make its outcome the one of reading everything at once. What was read
is read again if more bytes are there (`decode_append`), and so is what was refused
(`decode_append_error`); and what was left over is where reading goes on (`drain_resume`).
-/

namespace RouterMenu.Wire

/-! ## What was refused stays refused -/

theorem Piece.first_append_error {buffer : List UInt8} {e : FrameError}
    (h : Piece.first buffer = .error e) (more : List UInt8) :
    Piece.first (buffer ++ more) = .error e := by
  cases hd : WordLength.decode buffer with
  | error e' =>
    have happend := WordLength.decode_append more (by rw [hd]; simp)
    rw [hd] at happend
    simp only [Piece.first, hd, Except.error.injEq] at h
    simp only [Piece.first, happend, h]
  | ok found =>
    -- a length that could be read begins a word, or the end, or not enough of either
    cases found with
    | none => simp [Piece.first, hd] at h
    | some a =>
      obtain ⟨length, width⟩ := a
      simp only [Piece.first, hd] at h
      split at h
      · simp at h
      · split at h <;> simp at h

namespace Framing

theorem collect_of_error {words : List (List UInt8)} {buffer : List UInt8} {e : FrameError}
    (h : Piece.first buffer = .error e) : collect words buffer = .error e := by
  rw [collect]
  split <;> simp_all

theorem collect_append_error {words : List (List UInt8)} {buffer : List UInt8} {e : FrameError}
    (h : collect words buffer = .error e) (more : List UInt8) :
    collect words (buffer ++ more) = .error e := by
  fun_induction collect words buffer with
  | case1 words buffer e' hp =>
    rw [Except.error.injEq] at h
    exact collect_of_error (h ▸ Piece.first_append_error hp more)
  | case2 => simp at h
  | case3 => simp at h
  | case4 words buffer word rest hp ih =>
    obtain ⟨piece, rfl, hpiece⟩ := Piece.first_word_split hp
    rw [List.append_assoc, collect_of_word (hpiece _)]
    exact ih h

/-- **A fault found stays the same** when more bytes arrive. -/
theorem decode_append_error {buffer : List UInt8} {e : FrameError} (h : decode buffer = .error e)
    (more : List UInt8) : decode (buffer ++ more) = .error e := by
  cases hc : collect [] buffer with
  | error e' =>
    simp only [decode, hc, Except.error.injEq] at h
    simp only [decode, collect_append_error hc more, h]
  | ok found => cases found <;> simp [decode, hc] at h

/-! ## Reading on -/

/-- Nothing can be read from what is left over: more bytes are needed, or there is the fault. -/
theorem decode_rest (buffer : List UInt8) :
    decode (drain buffer).rest =
      match (drain buffer).fault with
      | some e => .error e
      | none => .ok none := by
  fun_induction drain buffer with
  | case1 buffer e hd => exact hd
  | case2 buffer hd => exact hd
  | case3 buffer words rest hd later ih => exact ih

/-- **Reading goes on where it stopped.** -/
theorem drain_resume (buffer more : List UInt8) :
    drain (buffer ++ more) =
      { drain ((drain buffer).rest ++ more) with
        sentences :=
          (drain buffer).sentences ++ (drain ((drain buffer).rest ++ more)).sentences } := by
  fun_induction drain buffer with
  | case1 buffer e hd => rfl
  | case2 buffer hd => rfl
  | case3 buffer words rest hd later ih =>
    rw [drain_of_some (decode_append hd more), ih]
    rfl

/-- Behind a fault nothing is read, whatever arrives. -/
theorem drain_rest_of_fault {buffer : List UInt8} {e : FrameError}
    (h : (drain buffer).fault = some e) (more : List UInt8) :
    drain ((drain buffer).rest ++ more) = ⟨[], some e, (drain buffer).rest ++ more⟩ := by
  have hrest := decode_rest buffer
  rw [h] at hrest
  exact drain_of_error (decode_append_error hrest more)

/-! ## Chunks -/

/-- Takes in a chunk, and reads what is left over and the chunk until more bytes are needed. Of all
faults the first is kept. -/
def Drained.receive (d : Drained) (chunk : List UInt8) : Drained :=
  let later := drain (d.rest ++ chunk)
  ⟨d.sentences ++ later.sentences, d.fault.or later.fault, later.rest⟩

/-- What chunks yield that are taken in one after another. -/
def deliver (chunks : List (List UInt8)) : Drained := chunks.foldl Drained.receive ⟨[], none, []⟩

/-- A chunk more is read as if it had been there from the start. -/
theorem drain_receive (buffer chunk : List UInt8) :
    (drain buffer).receive chunk = drain (buffer ++ chunk) := by
  rw [drain_resume, Drained.receive]
  cases h : (drain buffer).fault with
  | none => rfl
  | some e => rw [drain_rest_of_fault h chunk]; rfl

/-- **Chunks yield what the stream yields** that they make up. -/
theorem deliver_eq_drain (chunks : List (List UInt8)) : deliver chunks = drain chunks.flatten := by
  induction chunks using List.reverseRecOn with
  | nil => exact spells_nil.symm
  | append_singleton chunks chunk ih =>
    have hconcat : deliver (chunks ++ [chunk]) = (deliver chunks).receive chunk := by
      simp [deliver]
    rw [hconcat, ih, drain_receive, List.flatten_append, List.flatten_singleton]

/-- What is found when the stream ends with these bytes left over. -/
def atEnd (rest : List UInt8) : Found := (({ buffer := rest } : Inbox).close).next.2

/-- The end of a stream is clean if nothing is left over. -/
theorem atEnd_of_none {rest : List UInt8} (h : decode rest = .ok none) :
    atEnd rest = if rest.isEmpty then .finished else .fault (.stream .unfinished) := by
  have hclose : ({ buffer := rest } : Inbox).close = ⟨rest, true, true, false⟩ := rfl
  unfold atEnd Inbox.next
  rw [hclose]
  cases hempty : rest.isEmpty with
  | true => simp [h]
  | false => simp [h]

/-- **How a stream is cut does not matter.** Chunks that make up the same stream yield the same
sentences and the same fault, if any. If there is none they leave the same bytes, and the end of
the stream means the same: it is as it should be if no bytes are left, and is reported if there
are. -/
theorem deliver_congr {chunks others : List (List UInt8)}
    (same : chunks.flatten = others.flatten) :
    (deliver chunks).sentences = (deliver others).sentences
      ∧ (deliver chunks).fault = (deliver others).fault
      ∧ ((deliver chunks).fault = none →
        (deliver chunks).rest = (deliver others).rest
          ∧ atEnd (deliver chunks).rest = atEnd (deliver others).rest
          ∧ atEnd (deliver others).rest =
            if (deliver others).rest.isEmpty then .finished
            else .fault (.stream .unfinished)) := by
  -- delivered in chunks or at once, the same is drained
  have heq : deliver chunks = deliver others := by
    rw [deliver_eq_drain, deliver_eq_drain, same]
  rw [heq]
  refine ⟨rfl, rfl, fun hnone => ⟨rfl, rfl, ?_⟩⟩
  rw [deliver_eq_drain] at hnone ⊢
  have hrest := decode_rest others.flatten
  rw [hnone] at hrest
  exact atEnd_of_none hrest

/-- A word behind a length of two bytes, cut within the length and cut behind the sentence. -/
theorem deliver_congr_within_length :
    ([[0x80], [0x01, 0x61], [0x00, 0x02]] : List (List UInt8)).flatten
        = [[0x80, 0x01, 0x61, 0x00], [0x02]].flatten
      ∧ (deliver [[0x80], [0x01, 0x61], [0x00, 0x02]]).sentences = [["a"]]
      ∧ (deliver [[0x80, 0x01, 0x61, 0x00], [0x02]]).sentences = [["a"]]
      ∧ atEnd (deliver [[0x80], [0x01, 0x61], [0x00, 0x02]]).rest
        = .fault (.stream .unfinished) := by
  have hsame : ([[0x80], [0x01, 0x61], [0x00, 0x02]] : List (List UInt8)).flatten
      = [[0x80, 0x01, 0x61, 0x00], [0x02]].flatten := rfl
  have hwhole : (deliver [[0x80, 0x01, 0x61, 0x00], [0x02]]).sentences = [["a"]]
      ∧ (deliver [[0x80, 0x01, 0x61, 0x00], [0x02]]).fault = none
      ∧ (deliver [[0x80, 0x01, 0x61, 0x00], [0x02]]).rest = [0x02] := by decide +kernel
  obtain ⟨hsentences, hfault, hend⟩ := deliver_congr hsame
  obtain ⟨-, hsame', hreported⟩ := hend (hfault.trans hwhole.2.1)
  refine ⟨hsame, hsentences.trans hwhole.1, hwhole.1, ?_⟩
  rw [hsame', hreported, hwhole.2.2]
  rfl

end Framing

end RouterMenu.Wire
