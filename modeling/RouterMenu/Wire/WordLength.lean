import RouterMenu.Text.Numeral

/-!
# Word lengths

Every word is announced by its length in one of five forms. The first byte tells the form: its
leading ones count the bytes that follow, and its other bits, if any, are the most significant
of the length.

    0xxxxxxx                     below 0x80
    10xxxxxx  1 byte             below 0x4000
    110xxxxx  2 bytes            below 0x200000
    1110xxxx  3 bytes            below 0x10000000
    11110000  4 bytes            any other

A length is written in the shortest form that holds it and read in any form. No word may be
longer than `maxWordLength`, in either direction.
-/

namespace RouterMenu.Wire

/-- Sixteen mebibytes, well above anything a device sends. -/
def maxWordLength : Nat := 16 * 1024 * 1024

/-- Why bytes are no frame, or a word fits into none. -/
inductive FrameError where
  /-- A word longer than the limit. -/
  | oversized (length : Nat)
  /-- A first byte that begins no length. -/
  | reserved (control : UInt8)
deriving DecidableEq, Repr

/-- What is reported about it. -/
def FrameError.message : FrameError → String
  | .oversized n => s!"word of {n} bytes exceeds the frame limit"
  | .reserved b =>
    let digits := String.ofList (Text.hex b.toNat)
    s!"reserved control byte 0x{digits} in length prefix"

namespace WordLength

/-- The `k`-th byte of a number, counted from the least significant. -/
def byte (n k : Nat) : UInt8 := UInt8.ofNat (n / Nat.pow 256 k % 256)

/-- A length below `2 ^ 32` in the shortest form that holds it. -/
def shortest (n : Nat) : List UInt8 :=
  if n < 0x80 then [byte n 0]
  else if n < 0x4000 then [0x80 + byte n 1, byte n 0]
  else if n < 0x200000 then [0xC0 + byte n 2, byte n 1, byte n 0]
  else if n < 0x10000000 then [0xE0 + byte n 3, byte n 2, byte n 1, byte n 0]
  else [0xF0, byte n 3, byte n 2, byte n 1, byte n 0]

/-- The announcement of a word of `n` bytes. -/
def encode (n : Nat) : Except FrameError (List UInt8) :=
  if maxWordLength < n then .error (.oversized n) else .ok (shortest n)

/-- How many bytes follow a first byte, and the bits of the length it holds itself. -/
def form? (b : UInt8) : Option (Nat × Nat) :=
  let n := b.toNat
  if n < 0x80 then some (0, n)
  else if n < 0xC0 then some (1, n - 0x80)
  else if n < 0xE0 then some (2, n - 0xC0)
  else if n < 0xF0 then some (3, n - 0xE0)
  else if n = 0xF0 then some (4, 0)
  else none

/-- A length read: how many bytes the word has, and how many announced it. -/
structure Announced where
  length : Nat
  width : Nat
deriving DecidableEq, Repr

/-- Reads the length at the start of the bytes; `none` if more of them are needed. -/
def decode : List UInt8 → Except FrameError (Option Announced)
  | [] => .ok none
  | first :: rest =>
    match form? first with
    | none => .error (.reserved first)
    | some (following, bits) =>
      let more := rest.take following
      if more.length < following then .ok none
      else
        let length := more.foldl (fun acc b => acc * 256 + b.toNat) bits
        if maxWordLength < length then .error (.oversized length)
        else .ok (some ⟨length, following + 1⟩)

/-- A length read was announced by a byte at least. -/
theorem decode_width_pos {bytes : List UInt8} {a : Announced}
    (h : decode bytes = .ok (some a)) : 0 < a.width := by
  cases bytes with
  | nil => simp [decode] at h
  | cons first rest =>
    simp only [decode] at h
    split at h
    · simp at h
    · split at h
      · simp at h
      · split at h
        · simp at h
        · simp only [Except.ok.injEq, Option.some.injEq] at h
          subst h
          exact Nat.succ_pos _

end WordLength

end RouterMenu.Wire
