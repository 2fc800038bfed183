import RouterMenu.Text.Numeral

/-!
# The shortest decimal of a binary fraction

A double stands for every real number that rounds to it. Its shortest decimal is the one with
the fewest digits among them, and of those the nearest to the double itself. A grid of decimals
with a given number of digits meets the interval of those reals exactly if one of the two grid
points around the double lies in it, so only these two are tried, all in whole numbers.
-/

namespace RouterMenu.Decimal

/-- `significand · 10 ^ exponent`. -/
structure Scientific where
  significand : Nat
  exponent : Int
deriving DecidableEq, Repr

/-- What a double is, apart from its sign. -/
inductive Magnitude where
  /-- `mantissa · 2 ^ exponent`; the gap to the double below is halved at a power of two. -/
  | finite (mantissa : Nat) (exponent : Int) (halved : Bool)
  | infinite
  | undefined
deriving Repr

/-- The magnitude of a double. -/
def Magnitude.ofFloat (x : Float) : Magnitude :=
  let bits := x.toBits.toNat
  let fraction := bits % 0x10000000000000
  let biased : Nat := bits / 0x10000000000000 % 0x800
  if biased = 2047 then if fraction = 0 then .infinite else .undefined
  else if biased = 0 then .finite fraction (-1074) false
  else .finite (fraction + 0x10000000000000) ((biased : Int) - 1075) (fraction == 0 && 1 < biased)

/-- Whether the sign of a double is minus. -/
def isNegative (x : Float) : Bool := x.toBits.toNat / 0x8000000000000000 == 1

/-- The reals between `low / den` and `high / den` around `value / den`. -/
structure Interval where
  low : Nat
  value : Nat
  high : Nat
  den : Nat
  /-- Whether the ends belong to it. -/
  closed : Bool

/-- The reals that round to the double `m · 2 ^ e`: the ends do when `m` is even. -/
def Interval.of (m : Nat) (e : Int) (halved : Bool) : Interval :=
  -- in quarters of the last place, so that the halved gap is a whole number too
  let up := Nat.pow 2 (e - 2).toNat
  let den := Nat.pow 2 (2 - e).toNat
  { low := (if halved then 4 * m - 1 else 4 * m - 2) * up
    value := 4 * m * up
    high := (4 * m + 2) * up
    den
    closed := m % 2 == 0 }

namespace Interval

/-- Whether `n · num / scale` lies in the interval. -/
def holds (r : Interval) (n num scale : Nat) : Bool :=
  let x := n * num * r.den
  if r.closed then r.low * scale ≤ x && x ≤ r.high * scale
  else r.low * scale < x && x < r.high * scale

/-- The grid point of step `10 ^ p` in the interval that lies nearest to its value. -/
def onGrid? (r : Interval) (p : Int) : Option Scientific :=
  let num := Nat.pow 10 p.toNat
  let scale := Nat.pow 10 (-p).toNat
  -- the value in steps of the grid is `value · scale / (den · num)`
  let below := r.value * scale / (r.den * num)
  let above := below + 1
  match r.holds below num scale && below != 0, r.holds above num scale with
  | true, true =>
    let down := r.value * scale - below * num * r.den
    let up := above * num * r.den - r.value * scale
    if down < up || (down == up && below % 2 == 0) then some ⟨below, p⟩ else some ⟨above, p⟩
  | true, false => some ⟨below, p⟩
  | false, true => some ⟨above, p⟩
  | false, false => none

/-- The least `k` with `value / den < 10 ^ k`, looking upward from `k` for `fuel` steps. -/
def orderFrom (r : Interval) (k : Int) : Nat → Int
  | 0 => k
  | fuel + 1 =>
    if r.value * Nat.pow 10 (-k).toNat < r.den * Nat.pow 10 k.toNat then k
    else r.orderFrom (k + 1) fuel

/-- Tries ever finer grids; seventeen digits are enough for every double. -/
def shortestFrom (r : Interval) (p : Int) : Nat → Scientific
  | 0 => ⟨r.value / r.den, 0⟩
  | fuel + 1 =>
    match r.onGrid? p with
    | some d => d
    | none => r.shortestFrom (p - 1) fuel

/-- The shortest decimal in the interval. -/
def shortest (r : Interval) : Scientific :=
  let order := r.orderFrom (-330) 700
  r.shortestFrom (order - 1) 20

end Interval

/-- Moves trailing zeros of the significand into the exponent. -/
def Scientific.stripZeros (d : Scientific) : Nat → Scientific
  | 0 => d
  | fuel + 1 =>
    if d.significand ≠ 0 ∧ d.significand % 10 = 0 then
      stripZeros ⟨d.significand / 10, d.exponent + 1⟩ fuel
    else d

/-- The shortest decimal of a finite double, without trailing zeros. -/
def shortest (m : Nat) (e : Int) (halved : Bool) : Scientific :=
  if m = 0 then ⟨0, 0⟩ else (Interval.of m e halved).shortest.stripZeros 20

open Text (ofNat ofInt)

/-- Positional notation: all digits up to the units, then a point only if digits follow it. -/
def Scientific.positional (d : Scientific) : List Char :=
  let digits := ofNat d.significand
  if 0 ≤ d.exponent then digits ++ List.replicate d.exponent.toNat '0'
  else
    let places := (-d.exponent).toNat
    if digits.length ≤ places then
      '0' :: '.' :: List.replicate (places - digits.length) '0' ++ digits
    else
      let whole := digits.length - places
      digits.take whole ++ '.' :: digits.drop whole

/-- One digit before the point, and the power of ten with its sign and two digits or more. -/
def Scientific.exponential (d : Scientific) : List Char :=
  let digits := ofNat d.significand
  let power := d.exponent + (digits.length : Int) - 1
  let fraction := match digits.drop 1 with
    | [] => []
    | rest => '.' :: rest
  let size := ofNat power.natAbs
  digits.take 1 ++ fraction ++
    'e' :: (if power < 0 then '-' else '+') :: (if size.length < 2 then '0' :: size else size)

/-- Plain text of a double: always positional, and no point after a whole number. -/
def plain (x : Float) : String :=
  let sign := if isNegative x then ['-'] else []
  match Magnitude.ofFloat x with
  | .undefined => "NaN"
  | .infinite => String.ofList (sign ++ "inf".toList)
  | .finite m e halved => String.ofList (sign ++ (shortest m e halved).positional)

/-- Text of a finite double that shows it is no integer: a whole number keeps `.0`, and powers of
ten outside `10⁻⁵ … 10¹⁶` are written with an exponent. -/
def marked (x : Float) : String :=
  let sign := if isNegative x then ['-'] else []
  match Magnitude.ofFloat x with
  | .finite m e halved =>
    let d := shortest m e halved
    let power := d.exponent + ((ofNat d.significand).length : Int) - 1
    let body :=
      if -5 ≤ power ∧ power < 16 then
        if 0 ≤ d.exponent then d.positional ++ ['.', '0'] else d.positional
      else d.exponential
    String.ofList (sign ++ body)
  | _ => "null"

end RouterMenu.Decimal
