import RouterMenu.Gateway.Error
import RouterMenu.Wire.Framing

/-!
# The receiving side of a connection

Bytes gather in a buffer, and sentences are read from its start as soon as they are complete.
After a fault the next attempt to read finds the end of the stream, once; a fault of framing
leaves the offending bytes where they are. At the end of the stream what is left in the buffer
must be nothing but sentences.
-/

namespace RouterMenu

/-- What has arrived and how reading stands. -/
structure Inbox where
  buffer : List UInt8 := []
  /-- The stream has ended. -/
  ended : Bool := false
  /-- The buffer may hold a sentence that has not been read. -/
  readable : Bool := false
  /-- The next attempt to read finds the end of the stream, whatever has arrived. -/
  stopped : Bool := false
deriving DecidableEq, Repr

/-- What an attempt to read a sentence finds. -/
inductive Found where
  | sentence (words : List String)
  | fault (e : GatewayError)
  /-- The end of the stream. -/
  | finished
  /-- Nothing yet: more bytes are needed. -/
  | starved
deriving DecidableEq, Repr

namespace Inbox

/-- Tries to read a sentence from what has arrived. -/
def next (i : Inbox) : Inbox × Found :=
  if i.stopped then ({ i with readable := false, stopped := false }, .finished)
  else if !i.readable then (i, .starved)
  else match Wire.Framing.decode i.buffer with
    | .error e => ({ i with stopped := true }, .fault (.protocol (.frame e)))
    | .ok (some (words, rest)) => ({ i with buffer := rest }, .sentence words)
    | .ok none =>
      if !i.ended then ({ i with readable := false }, .starved)
      else if i.buffer.isEmpty then ({ i with readable := false }, .finished)
      else ({ i with stopped := true }, .fault (.stream .unfinished))

/-- A sentence found was in the buffer. -/
theorem next_lt {i j : Inbox} {words : List String} (h : i.next = (j, .sentence words)) :
    j.buffer.length < i.buffer.length := by
  unfold next at h
  split at h
  · simp at h
  · split at h
    · simp at h
    · split at h
      · simp at h
      · next hd =>
        simp only [Prod.mk.injEq] at h
        obtain ⟨rfl, -⟩ := h
        exact Wire.Framing.decode_lt hd
      · split at h
        · simp at h
        · split at h <;> simp at h

/-- Takes in bytes that have arrived. -/
def receive (i : Inbox) (bytes : List UInt8) : Inbox :=
  { i with buffer := i.buffer ++ bytes, ended := false, readable := true }

/-- Takes note of the end of the stream. What is left in the buffer is looked at the first time
only. -/
def close (i : Inbox) : Inbox :=
  if i.ended then { i with stopped := true } else { i with ended := true, readable := true }

/-- Takes note of a failure of the stream. -/
def stop (i : Inbox) : Inbox := { i with stopped := true }

end Inbox

end RouterMenu
