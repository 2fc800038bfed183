/-!
# Bytes as text

Text travels as UTF-8. What a device sends may be anything, and is read all the same: where no
character can begin, or one breaks off, the longest run of bytes that could still have become a
character is replaced by the replacement character, and reading goes on behind it.
-/

namespace RouterMenu.Text.Utf8

/-- The bytes of a text. -/
def encode (s : String) : List UInt8 := s.toByteArray.data.toList

/-- Stands for bytes that are no text. -/
def replacement : Char := '\uFFFD'

/-- What may come after a first byte: how many bytes follow it, and the bounds of the next one. -/
def lead (b : UInt8) : Option (Nat × UInt8 × UInt8) :=
  if 0xC2 ≤ b ∧ b ≤ 0xDF then some (1, 0x80, 0xBF)
  else if b = 0xE0 then some (2, 0xA0, 0xBF)
  else if b = 0xED then some (2, 0x80, 0x9F)
  else if 0xE1 ≤ b ∧ b ≤ 0xEF then some (2, 0x80, 0xBF)
  else if b = 0xF0 then some (3, 0x90, 0xBF)
  else if 0xF1 ≤ b ∧ b ≤ 0xF3 then some (3, 0x80, 0xBF)
  else if b = 0xF4 then some (3, 0x80, 0x8F)
  else none

/-- A character begun: its bits so far, how many bytes it still needs, the bounds of the next. -/
structure Pending where
  bits : Nat
  needed : Nat
  low : UInt8
  high : UInt8

/-- The bits that a first byte contributes when `n` bytes follow it. -/
def leadBits (b : UInt8) : Nat → Nat
  | 1 => b.toNat % 0x20
  | 2 => b.toNat % 0x10
  | _ => b.toNat % 0x08

/-- A byte met between characters. -/
def start (acc : List Char) (b : UInt8) : List Char × Option Pending :=
  if b < 0x80 then (Char.ofNat b.toNat :: acc, none)
  else match lead b with
    | some (needed, low, high) => (acc, some ⟨leadBits b needed, needed, low, high⟩)
    | none => (replacement :: acc, none)

/-- A byte met anywhere. One that cannot continue the character begun ends it unfinished and is
looked at afresh. -/
def step (acc : List Char) (pending : Option Pending) (b : UInt8) : List Char × Option Pending :=
  match pending with
  | none => start acc b
  | some p =>
    if p.low ≤ b ∧ b ≤ p.high then
      let bits := p.bits * 0x40 + b.toNat % 0x40
      if p.needed ≤ 1 then (Char.ofNat bits :: acc, none)
      else (acc, some ⟨bits, p.needed - 1, 0x80, 0xBF⟩)
    else start (replacement :: acc) b

/-- The characters of the bytes, the last one first. -/
def run (acc : List Char) (pending : Option Pending) : List UInt8 → List Char
  | [] => if pending.isSome then replacement :: acc else acc
  | b :: rest =>
    let (acc, pending) := step acc pending b
    run acc pending rest

/-- Bytes as text: verbatim if they are UTF-8, and otherwise with replacements. -/
def decode (bytes : List UInt8) : String :=
  let array : ByteArray := ⟨bytes.toArray⟩
  match String.fromUTF8? array with
  | some s => s
  | none => String.ofList (run [] none bytes).reverse

end RouterMenu.Text.Utf8
