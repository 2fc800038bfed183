/-!
# Numerals

Decimal numerals in ASCII digits. A numeral never runs over silently: the bounds are part of
the reading, and text outside them is refused like text that holds no number.
-/

namespace RouterMenu.Text

/-- The value of an ASCII digit. -/
def digit? (c : Char) : Option Nat :=
  if '0' ≤ c ∧ c ≤ '9' then some (c.toNat - '0'.toNat) else none

/-- An ASCII digit. -/
def isDigit (c : Char) : Bool := (digit? c).isSome

/-- One digit or more, and nothing else. -/
def isNumeral (s : List Char) : Bool := !s.isEmpty && s.all isDigit

/-- The number a run of digits stands for, on top of the digits read before it. -/
def digitsValue (acc : Nat) : List Char → Option Nat
  | [] => some acc
  | c :: rest =>
    match digit? c with
    | some d => digitsValue (acc * 10 + d) rest
    | none => none

/-- The number a numeral stands for. -/
def numeral? (s : List Char) : Option Nat :=
  if s.isEmpty then none else digitsValue 0 s

/-- A natural number not above `max`; a plus sign may stand before it. -/
def natUpTo? (max : Nat) (s : List Char) : Option Nat :=
  let digits := match s with
    | '+' :: rest => rest
    | _ => s
  match numeral? digits with
  | some n => if n ≤ max then some n else none
  | none => none

/-- An integer from `lo` to `hi`; a sign may stand before it. -/
def intWithin? (lo hi : Int) (s : List Char) : Option Int :=
  let value : Option Int := match s with
    | '-' :: rest => (numeral? rest).map fun n => -(n : Int)
    | '+' :: rest => (numeral? rest).map fun n => (n : Int)
    | _ => (numeral? s).map fun n => (n : Int)
  match value with
  | some n => if lo ≤ n ∧ n ≤ hi then some n else none
  | none => none

/-- The greatest number of 64 bits without a sign. -/
def maxU64 : Nat := 0xFFFFFFFFFFFFFFFF

/-- The greatest number of 64 bits with a sign. -/
def maxI64 : Nat := 0x7FFFFFFFFFFFFFFF

/-- An integer of 64 bits with a sign. -/
def i64? (s : List Char) : Option Int := intWithin? (-(maxI64 : Int) - 1) maxI64 s

/-- The digits of a number, most significant first, in front of `acc`. -/
def digitsOf (acc : List Char) (n : Nat) : List Char :=
  let acc := Char.ofNat ('0'.toNat + n % 10) :: acc
  if n < 10 then acc else digitsOf acc (n / 10)
termination_by n

/-- The shortest numeral of a natural number. -/
def ofNat (n : Nat) : List Char := digitsOf [] n

/-- The shortest numeral of an integer, with a minus sign below zero. -/
def ofInt : Int → List Char
  | .ofNat n => ofNat n
  | .negSucc n => '-' :: ofNat (n + 1)

/-- Lower-case hexadecimal digits of a number, most significant first, in front of `acc`. -/
def hexDigitsOf (acc : List Char) (n : Nat) : List Char :=
  let acc := "0123456789abcdef".toList.getD (n % 16) '0' :: acc
  if n < 16 then acc else hexDigitsOf acc (n / 16)
termination_by n

/-- The shortest lower-case hexadecimal numeral. -/
def hex (n : Nat) : List Char := hexDigitsOf [] n

end RouterMenu.Text
