import RouterMenu.Text.Numeral

/-!
# Sextets in print

Three bytes are written as four symbols of six bits each; a last group that falls short is filled
up with padding. Blanks between the symbols do not count.
-/

namespace RouterMenu.Trust.Base64

/-- What is wrong with a text. -/
inductive Fault where
  | invalidCharacter (byte : UInt8)
  /-- Something follows padding. -/
  | prematurePadding
  /-- The last group is no group. -/
  | invalidTrailingPadding
deriving DecidableEq, Repr

/-- The name of the fault. -/
def Fault.name : Fault → String
  | .invalidCharacter byte =>
    "InvalidCharacter(" ++ String.ofList (Text.ofNat byte.toNat) ++ ")"
  | .prematurePadding => "PrematurePadding"
  | .invalidTrailingPadding => "InvalidTrailingPadding"

/-- What a byte of the text stands for. -/
inductive Symbol where
  | bits (value : Nat)
  | padding
deriving DecidableEq, Repr

/-- Whether the byte is one of the blanks of the text. -/
def isBlank (byte : UInt8) : Bool := byte == 0x20 || (0x09 ≤ byte && byte ≤ 0x0D)

/-- The symbol a byte stands for. -/
def symbol? (byte : UInt8) : Option Symbol :=
  let n := byte.toNat
  if 0x41 ≤ n && n ≤ 0x5A then some (.bits (n - 0x41))
  else if 0x61 ≤ n && n ≤ 0x7A then some (.bits (n - 0x61 + 26))
  else if 0x30 ≤ n && n ≤ 0x39 then some (.bits (n - 0x30 + 52))
  else if n = 0x2B then some (.bits 62)
  else if n = 0x2F then some (.bits 63)
  else if n = 0x3D then some .padding
  else none

/-- The symbols of a text. -/
def symbols : List UInt8 → Except Fault (List Symbol)
  | [] => .ok []
  | byte :: rest =>
    if isBlank byte then symbols rest
    else match symbol? byte with
      | some s => (symbols rest).map (s :: ·)
      | none => .error (.invalidCharacter byte)

/-- The bytes that groups of four symbols stand for. -/
def bytes : List Symbol → Except Fault (List UInt8)
  | [] => .ok []
  | [.bits a, .bits b, .padding, .padding] => .ok [.ofNat (a * 4 + b / 16)]
  | [.bits a, .bits b, .bits c, .padding] =>
    .ok [.ofNat (a * 4 + b / 16), .ofNat (b % 16 * 16 + c / 4)]
  | .bits a :: .bits b :: .bits c :: .bits d :: rest =>
    (bytes rest).map fun tail =>
      .ofNat (a * 4 + b / 16) :: .ofNat (b % 16 * 16 + c / 4) :: .ofNat (c % 4 * 64 + d) :: tail
  | rest =>
    if (rest.dropWhile (· ≠ .padding)).all (· = .padding) && rest.length ≤ 4 then
      .error .invalidTrailingPadding
    else .error .prematurePadding

/-- The bytes that a text stands for. -/
def decode (text : List UInt8) : Except Fault (List UInt8) := (symbols text).bind bytes

end RouterMenu.Trust.Base64
