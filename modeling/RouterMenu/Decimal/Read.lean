import RouterMenu.Text.Numeral

/-!
# Reading decimals

A decimal is digits around a point, perhaps with a power of ten behind them. It is read into the
double nearest to it, however many digits it has and however large the power is.
-/

namespace RouterMenu.Decimal

/-- The digits of a decimal without its point, and the power of ten they are to be multiplied
by. -/
structure Digits where
  digits : List Char
  exponent : Int
deriving DecidableEq, Repr

/-- The greatest power of ten that is told from greater ones. -/
def maxPower : Nat := 1000000000

/-- Reads an exponent: digits, perhaps behind a sign. -/
def exponent? (s : List Char) : Option Int :=
  let clamped (digits : List Char) : Option Int :=
    (Text.numeral? digits).map fun n => (min n maxPower : Nat)
  match s with
  | '-' :: digits => (clamped digits).map (- ·)
  | '+' :: digits => clamped digits
  | digits => clamped digits

/-- Splits digits, a point, digits, and an exponent. There must be a digit on one side of the
point; the point and the exponent may be missing. -/
def digits? (s : List Char) : Option Digits := do
  let whole := s.takeWhile Text.isDigit
  let rest := s.dropWhile Text.isDigit
  let (fraction, rest) := match rest with
    | '.' :: rest => (rest.takeWhile Text.isDigit, rest.dropWhile Text.isDigit)
    | _ => ([], rest)
  if whole.isEmpty && fraction.isEmpty then none
  else
    let exponent ← match rest with
      | [] => some 0
      | 'e' :: rest | 'E' :: rest => exponent? rest
      | _ => none
    some ⟨whole ++ fraction, exponent - fraction.length⟩

/-- The double nearest to a decimal. Above 10 ^ 310 every decimal is infinite, and below
10 ^ (-330) every one is zero. -/
def Digits.toFloat (d : Digits) : Float :=
  let digits := d.digits.dropWhile (· == '0')
  let order := d.exponent + digits.length
  match Text.numeral? digits with
  | none => 0.0
  | some n =>
    if 310 < order then 1.0 / 0.0
    else if order < -330 then 0.0
    else Float.ofScientific n (d.exponent < 0) d.exponent.natAbs

/-- The double a text stands for: a decimal, perhaps behind a sign. -/
def read? (s : List Char) : Option Float :=
  match s with
  | '-' :: rest => (digits? rest).map fun d => -d.toFloat
  | '+' :: rest => (digits? rest).map Digits.toFloat
  | rest => (digits? rest).map Digits.toFloat

end RouterMenu.Decimal
