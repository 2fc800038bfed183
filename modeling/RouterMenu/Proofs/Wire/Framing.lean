import RouterMenu.Proofs.Wire.WordLength
import RouterMenu.Wire.Framing

/-!
# What is read of a stream does not depend on what follows

A sentence found at the start of a buffer is a run of bytes of its own: the buffer splits into
these bytes and the rest, and the same bytes yield the same sentence in front of any other rest.
So a stream that spells whole sentences can be cut off behind any of them and continued at will,
which is what `Spells` and `drain_append` say. A sentence that was written, with no empty word in
it, is read back as itself (`decode_write`): only the closing word has no bytes.
-/

namespace RouterMenu.Text.Utf8

/-- Text survives its way over the stream. -/
theorem decode_encode (s : String) : decode (encode s) = s := by
  have hb : (⟨(encode s).toArray⟩ : ByteArray) = s.toByteArray := by
    unfold encode
    rw [Array.toArray_toList]
  unfold decode
  rw [hb]
  have hs : String.fromUTF8? s.toByteArray = some s := by
    unfold String.fromUTF8?
    rw [dif_pos s.isValidUTF8]
    rfl
  simp only [hs]

/-- Only the empty text has no bytes. -/
theorem encode_length_pos {s : String} (h : s ≠ "") : 0 < (encode s).length := by
  rw [List.length_pos_iff]
  intro he
  refine h (String.toByteArray_eq_empty_iff.1 (ByteArray.ext ?_))
  exact Array.toList_eq_nil_iff.1 he

end RouterMenu.Text.Utf8

namespace RouterMenu.Wire

/-! ## Pieces -/

/-- The piece behind a complete announcement depends on its length and on what comes next. -/
theorem Piece.first_announced {head : List UInt8} {length : Nat}
    (h : WordLength.decode head = .ok (some ⟨length, head.length⟩)) (body : List UInt8) :
    Piece.first (head ++ body) =
      if length = 0 then .ok (.close body)
      else if (body.take length).length < length then .ok .incomplete
      else .ok (.word (body.take length) (body.drop length)) := by
  have hd : WordLength.decode (head ++ body) = .ok (some ⟨length, head.length⟩) := by
    rw [WordLength.decode_append body (by rw [h]; simp), h]
  unfold Piece.first
  rw [hd]
  simp only [List.drop_left]

/-- A buffer with a complete announcement splits behind it. -/
theorem announcement_split {buffer : List UInt8} {length width : Nat}
    (h : WordLength.decode buffer = .ok (some ⟨length, width⟩)) :
    ∃ head body, buffer = head ++ body ∧
      WordLength.decode head = .ok (some ⟨length, head.length⟩) := by
  obtain ⟨hle, hd⟩ := WordLength.decode_take h
  refine ⟨buffer.take width, buffer.drop width, (List.take_append_drop width buffer).symm, ?_⟩
  rw [List.length_take, Nat.min_eq_left hle]
  exact hd

/-- A word read is a run of bytes of its own. -/
theorem Piece.first_word_split {buffer word rest : List UInt8}
    (h : Piece.first buffer = .ok (.word word rest)) :
    ∃ piece, buffer = piece ++ rest ∧
      ∀ more, Piece.first (piece ++ more) = .ok (.word word more) := by
  cases hd : WordLength.decode buffer with
  | error e => simp [Piece.first, hd] at h
  | ok found =>
    cases found with
    | none => simp [Piece.first, hd] at h
    | some a =>
      obtain ⟨length, width⟩ := a
      obtain ⟨head, body, rfl, hhead⟩ := announcement_split hd
      rw [first_announced hhead] at h
      split at h
      · simp at h
      · next hz =>
        split at h
        · simp at h
        · next hl =>
          simp only [Except.ok.injEq, Piece.word.injEq] at h
          obtain ⟨rfl, rfl⟩ := h
          -- so much of the body belongs to the word that more bytes behind it make no difference
          have hlen : (body.take length).length = length := by
            have := List.length_take_le length body
            omega
          refine ⟨head ++ body.take length, ?_, fun more => ?_⟩
          · rw [List.append_assoc, List.take_append_drop]
          · rw [List.append_assoc, first_announced hhead, if_neg hz, List.take_left' hlen,
              List.drop_left' hlen, if_neg hl]

/-- So is the end of a sentence. -/
theorem Piece.first_close_split {buffer rest : List UInt8}
    (h : Piece.first buffer = .ok (.close rest)) :
    ∃ piece, buffer = piece ++ rest ∧
      ∀ more, Piece.first (piece ++ more) = .ok (.close more) := by
  cases hd : WordLength.decode buffer with
  | error e => simp [Piece.first, hd] at h
  | ok found =>
    cases found with
    | none => simp [Piece.first, hd] at h
    | some a =>
      obtain ⟨length, width⟩ := a
      obtain ⟨head, body, rfl, hhead⟩ := announcement_split hd
      rw [first_announced hhead] at h
      split at h
      · next hz =>
        simp only [Except.ok.injEq, Piece.close.injEq] at h
        subst h
        -- a closing word is all announcement
        exact ⟨head, rfl, fun more => by rw [first_announced hhead, if_pos hz]⟩
      · split at h <;> simp at h

namespace Framing

/-! ## Sentences -/

theorem collect_of_word {words : List (List UInt8)} {buffer word rest : List UInt8}
    (h : Piece.first buffer = .ok (.word word rest)) :
    collect words buffer = collect (word :: words) rest := by
  rw [collect]
  split <;> simp_all

theorem collect_of_close {words : List (List UInt8)} {buffer rest : List UInt8}
    (h : Piece.first buffer = .ok (.close rest)) :
    collect words buffer = .ok (some (words.reverse, rest)) := by
  rw [collect]
  split <;> simp_all

theorem collect_split {words found : List (List UInt8)} {buffer rest : List UInt8}
    (h : collect words buffer = .ok (some (found, rest))) :
    ∃ frame, buffer = frame ++ rest ∧
      ∀ more, collect words (frame ++ more) = .ok (some (found, more)) := by
  -- the frame is made of the pieces that were taken off, the closing one last
  fun_induction collect words buffer with
  | case1 => simp at h
  | case2 => simp at h
  | case3 words buffer rest' hp =>
    simp only [Except.ok.injEq, Option.some.injEq, Prod.mk.injEq] at h
    obtain ⟨rfl, rfl⟩ := h
    obtain ⟨piece, hb, hpiece⟩ := Piece.first_close_split hp
    exact ⟨piece, hb, fun more => collect_of_close (hpiece more)⟩
  | case4 words buffer word rest' hp ih =>
    obtain ⟨piece, hb, hpiece⟩ := Piece.first_word_split hp
    obtain ⟨frame, hr, hframe⟩ := ih h
    refine ⟨piece ++ frame, by rw [hb, hr, List.append_assoc], fun more => ?_⟩
    rw [List.append_assoc, collect_of_word (hpiece _), hframe]

/-- **A sentence read is a run of bytes of its own**, in front of whatever rest. -/
theorem decode_split {buffer rest : List UInt8} {words : List String}
    (h : decode buffer = .ok (some (words, rest))) :
    ∃ frame, buffer = frame ++ rest ∧
      ∀ more, decode (frame ++ more) = .ok (some (words, more)) := by
  unfold decode at h
  split at h
  · simp at h
  · simp at h
  · next found rest' hc =>
    simp only [Except.ok.injEq, Option.some.injEq, Prod.mk.injEq] at h
    obtain ⟨rfl, rfl⟩ := h
    obtain ⟨frame, hb, hframe⟩ := collect_split hc
    refine ⟨frame, hb, fun more => ?_⟩
    unfold decode
    rw [hframe more]

/-- The bytes of a sentence by themselves. -/
theorem decode_alone {buffer rest : List UInt8} {words : List String}
    (h : decode buffer = .ok (some (words, rest))) :
    ∃ frame, buffer = frame ++ rest ∧ decode frame = .ok (some (words, [])) := by
  obtain ⟨frame, hb, hframe⟩ := decode_split h
  have halone := hframe []
  rw [List.append_nil] at halone
  exact ⟨frame, hb, halone⟩

/-- A sentence that has been read stays the same when more bytes arrive. -/
theorem decode_append {buffer rest : List UInt8} {words : List String}
    (h : decode buffer = .ok (some (words, rest))) (more : List UInt8) :
    decode (buffer ++ more) = .ok (some (words, rest ++ more)) := by
  obtain ⟨frame, rfl, hframe⟩ := decode_split h
  rw [List.append_assoc, hframe]

theorem drain_of_some {buffer rest : List UInt8} {words : List String}
    (h : decode buffer = .ok (some (words, rest))) :
    drain buffer = { drain rest with sentences := words :: (drain rest).sentences } := by
  rw [drain]
  split <;> simp_all

theorem drain_of_none {buffer : List UInt8} (h : decode buffer = .ok none) :
    drain buffer = ⟨[], none, buffer⟩ := by
  rw [drain]
  split <;> simp_all

theorem drain_of_error {buffer : List UInt8} {e : FrameError} (h : decode buffer = .error e) :
    drain buffer = ⟨[], some e, buffer⟩ := by
  rw [drain]
  split <;> simp_all

/-- The bytes are whole sentences, one after another, and nothing else. -/
def Spells (bytes : List UInt8) (sentences : List (List String)) : Prop :=
  drain bytes = ⟨sentences, none, []⟩

theorem spells_nil : Spells [] [] := by
  refine drain_of_none ?_
  rw [decode, collect]
  rfl

theorem spells_cons {frame bytes : List UInt8} {words : List String}
    {sentences : List (List String)} (hf : decode frame = .ok (some (words, [])))
    (hb : Spells bytes sentences) : Spells (frame ++ bytes) (words :: sentences) := by
  have h := decode_append hf bytes
  unfold Spells at hb ⊢
  rw [drain_of_some h, List.nil_append, hb]

/-- **Whole sentences are read first**, and then whatever follows them. -/
theorem drain_append {bytes : List UInt8} {sentences : List (List String)}
    (h : Spells bytes sentences) (more : List UInt8) :
    drain (bytes ++ more) =
      { drain more with sentences := sentences ++ (drain more).sentences } := by
  unfold Spells at h
  -- each sentence is decoded alike with more bytes behind it
  induction sentences generalizing bytes with
  | nil =>
    cases hd : decode bytes with
    | error e => rw [drain_of_error hd] at h; simp at h
    | ok found =>
      cases found with
      | none =>
        rw [drain_of_none hd] at h
        simp only [Drained.mk.injEq, true_and] at h
        rw [h, List.nil_append, List.nil_append]
      | some found =>
        rw [drain_of_some hd] at h
        simp at h
  | cons words sentences ih =>
    cases hd : decode bytes with
    | error e => rw [drain_of_error hd] at h; simp at h
    | ok found =>
      cases found with
      | none => rw [drain_of_none hd] at h; simp at h
      | some found =>
        obtain ⟨found, rest⟩ := found
        rw [drain_of_some hd] at h
        simp only [Drained.mk.injEq, List.cons.injEq] at h
        obtain ⟨⟨rfl, h1⟩, h2, h3⟩ := h
        have hrest : drain rest = ⟨sentences, none, []⟩ := by rw [← h1, ← h2, ← h3]
        rw [drain_of_some (decode_append hd more), ih hrest]
        rfl

theorem spells_append {bytes more : List UInt8} {sentences others : List (List String)}
    (h : Spells bytes sentences) (hm : Spells more others) :
    Spells (bytes ++ more) (sentences ++ others) := by
  have := drain_append h more
  unfold Spells at hm ⊢
  rw [this, hm]

/-! ## Writing -/

theorem collect_write {words : List String} (hne : ∀ word ∈ words, word ≠ "")
    (hf : (write words).fault = none) (before : List (List UInt8)) (rest : List UInt8) :
    collect before ((write words).bytes ++ rest) =
      .ok (some (before.reverse ++ words.map Text.Utf8.encode, rest)) := by
  induction words generalizing before with
  | nil =>
    have hclose : Piece.first ((write []).bytes ++ rest) = .ok (.close rest) := by
      have hd : WordLength.decode [0] = .ok (some ⟨0, [(0 : UInt8)].length⟩) := rfl
      exact Piece.first_announced hd rest
    rw [collect_of_close hclose, List.map_nil, List.append_nil]
  | cons word words ih =>
    have hw : word ≠ "" := hne word (List.mem_cons_self ..)
    have hpos := Text.Utf8.encode_length_pos hw
    have hrest : ∀ w ∈ words, w ≠ "" := fun w h => hne w (List.mem_cons_of_mem _ h)
    by_cases hl : maxWordLength < (Text.Utf8.encode word).length
    · -- no frame was written at all
      simp [write, WordLength.encode, hl] at hf
    · simp only [write, WordLength.encode, if_neg hl] at hf ⊢
      have hd := WordLength.decode_shortest_append (Nat.not_lt.1 hl) []
      rw [List.append_nil] at hd
      have hfirst : Piece.first (WordLength.shortest (Text.Utf8.encode word).length ++
          (Text.Utf8.encode word ++ (write words).bytes) ++ rest) =
          .ok (.word (Text.Utf8.encode word) ((write words).bytes ++ rest)) := by
        rw [List.append_assoc, Piece.first_announced hd, if_neg (by omega), List.append_assoc,
          List.take_left, List.drop_left, if_neg (Nat.lt_irrefl _)]
      rw [collect_of_word hfirst, ih hrest hf, List.reverse_cons, List.append_assoc]
      rfl

/-- **A sentence written is read back**, if no word of it is empty. -/
theorem decode_write {words : List String} (hne : ∀ word ∈ words, word ≠ "")
    (hf : (write words).fault = none) (rest : List UInt8) :
    decode ((write words).bytes ++ rest) = .ok (some (words, rest)) := by
  unfold decode
  rw [collect_write hne hf]
  simp [Text.Utf8.decode_encode, Function.comp_def]

theorem decode_write_alone {words : List String} (hne : ∀ word ∈ words, word ≠ "")
    (hf : (write words).fault = none) :
    decode (write words).bytes = .ok (some (words, [])) := by
  have hrest := decode_write hne hf []
  rwa [List.append_nil] at hrest

end Framing

end RouterMenu.Wire
