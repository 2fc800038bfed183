import RouterMenu.Json.Cursor

/-!
# Reading JSON numbers

A number without point and exponent is whole as long as 64 bits hold it, signed or unsigned; any
other is a double. A double is computed from its leading digits, as many as 64 bits hold, and one
multiplication or division by a power of ten.
-/

namespace RouterMenu.Json

/-- A number read. -/
inductive Number where
  /-- Not negative. -/
  | nat (n : Nat)
  /-- Below zero. -/
  | negative (n : Int)
  | float (x : Float)

namespace Number

/-- What a message calls the number. -/
def found : Number → Found
  | .nat n => .int n
  | .negative n => .int n
  | .float x => .float x

/-- A power of ten as a double. -/
def powerOfTen (k : Nat) : Float := Float.ofScientific 1 false k

/-- `x · 10 ^ exponent`, or `none` if that is too large; four divisions bring any number of 64
bits to zero. -/
def scale (x : Float) (exponent : Int) : Nat → Option Float
  | 0 => some x
  | fuel + 1 =>
    if exponent.natAbs ≤ 308 then
      if 0 ≤ exponent then
        let product := x * powerOfTen exponent.natAbs
        if product.isInf then none else some product
      else some (x / powerOfTen exponent.natAbs)
    else if x == 0 then some x
    else if 0 ≤ exponent then none
    else scale (x / powerOfTen 308) (exponent + 308) fuel

end Number

namespace Cursor

/-- The cursor behind `n` characters of ASCII, none of them the end of a line. -/
def pastAscii (c : Cursor) (n : Nat) (rest : List Char) : Cursor := ⟨rest, c.line, c.column + n⟩

/-- A run of digits: their value after those before, how many they are, what follows, and whether
the run was left because 64 bits would not hold its value. -/
structure Digits where
  value : Nat
  count : Nat
  rest : List Char
  full : Bool

/-- Reads digits as long as 64 bits hold their value. -/
def digits (value count : Nat) : List Char → Digits
  | [] => ⟨value, count, [], false⟩
  | x :: rest =>
    match Text.digit? x with
    | none => ⟨value, count, x :: rest, false⟩
    | some d =>
      if Text.maxU64 < value * 10 + d then ⟨value, count, x :: rest, true⟩
      else digits (value * 10 + d) (count + 1) rest

/-- How many digits there are, and what follows them. -/
def digitRun (count : Nat) : List Char → Nat × List Char
  | [] => (count, [])
  | x :: rest => if Text.isDigit x then digitRun (count + 1) rest else (count, x :: rest)

/-- The cursor behind the digits it stands at. -/
def pastDigits (c : Cursor) : Cursor :=
  let (count, rest) := digitRun 0 c.rest
  c.pastAscii count rest

/-- A double of the given digits and power of ten. -/
def double (c : Cursor) (positive : Bool) (significand : Nat) (exponent : Int) :
    Except Fault (Number × Cursor) :=
  match Number.scale (Float.ofNat significand) exponent 5 with
  | some x => .ok (.float (if positive then x else -x), c)
  | none => .error (c.fault .hugeNumber)

/-- The greatest power that is counted. -/
def maxPower : Nat := 0x7FFFFFFF

/-- Reads the digits of an exponent: their value, or `none` if it is beyond counting, with the
cursor behind the digit that made it so. -/
def power (value : Nat) (c : Cursor) : List Char → Option Nat × Cursor
  | [] => (some value, c)
  | x :: rest =>
    match Text.digit? x with
    | none => (some value, c)
    | some d =>
      let behind := c.past x rest
      if maxPower < value * 10 + d then (none, behind) else power (value * 10 + d) behind rest

/-- Reads an exponent, from the letter that begins it. -/
def exponent (c : Cursor) (positive : Bool) (significand : Nat) (start : Int) :
    Except Fault (Number × Cursor) :=
  let c := c.next
  let (up, c) := match c.rest with
    | '+' :: _ => (true, c.next)
    | '-' :: _ => (false, c.next)
    | _ => (true, c)
  match c.rest with
  | [] => .error (c.fault .endInValue)
  | x :: _ =>
    match Text.digit? x with
    | none => .error (c.faultAhead .badNumber)
    | some _ =>
      match power 0 c c.rest with
      | (some n, c) => c.double positive significand (if up then start + n else start - n)
      | (none, c) =>
        if significand ≠ 0 ∧ up then .error (c.fault .hugeNumber)
        else .ok (.float (if positive then 0.0 else -0.0), c.pastDigits)

/-- Reads an exponent if there is one. -/
def maybeExponent (c : Cursor) (positive : Bool) (significand : Nat) (start : Int) :
    Except Fault (Number × Cursor) :=
  match c.rest with
  | 'e' :: _ | 'E' :: _ => c.exponent positive significand start
  | _ => c.double positive significand start

/-- Reads what follows the whole part of a number, from the point on. -/
def decimals (c : Cursor) (positive : Bool) (significand : Nat) (start : Int) :
    Except Fault (Number × Cursor) :=
  let c := c.next
  let found := digits significand 0 c.rest
  let behind := c.pastAscii found.count found.rest
  if found.full then behind.pastDigits.maybeExponent positive found.value (start - found.count)
  else if found.count = 0 then
    match c.rest with
    | [] => .error (c.fault .endInValue)
    | _ => .error (c.faultAhead .badNumber)
  else behind.maybeExponent positive found.value (start - found.count)

/-- Reads what follows the whole part of a number of which `start` digits were left out. -/
def fraction (c : Cursor) (positive : Bool) (significand : Nat) (start : Int) :
    Except Fault (Number × Cursor) :=
  match c.rest with
  | '.' :: _ => c.decimals positive significand start
  | _ => c.maybeExponent positive significand start

/-- The whole number of the given digits; minus zero, and what 64 bits do not hold, is a
double. -/
def wholeNumber (positive : Bool) (significand : Nat) : Number :=
  if positive then .nat significand
  else if significand = 0 then .float (-0.0)
  else if Text.maxI64 + 1 < significand then .float (-(Float.ofNat significand))
  else .negative (-(significand : Int))

/-- Reads a number behind its sign. -/
def number (c : Cursor) (positive : Bool) : Except Fault (Number × Cursor) :=
  match c.rest with
  | [] => .error (c.fault .endInValue)
  | x :: rest =>
    match Text.digit? x with
    | none => .error (c.faultAhead .badNumber)
    | some 0 =>
      let behind := c.past x rest
      match rest with
      | y :: _ =>
        if Text.isDigit y then .error (behind.faultAhead .badNumber)
        else ending behind 0
      | [] => ending behind 0
    | some _ =>
      let found := digits 0 0 c.rest
      let behind := c.pastAscii found.count found.rest
      if found.full then
        let (skipped, rest) := digitRun 0 found.rest
        (behind.pastAscii skipped rest).fraction positive found.value skipped
      else ending behind found.value
where
  /-- Decides by what follows whether the number is whole. -/
  ending (c : Cursor) (significand : Nat) : Except Fault (Number × Cursor) :=
    match c.rest with
    | '.' :: _ | 'e' :: _ | 'E' :: _ => c.fraction positive significand 0
    | _ => .ok (wholeNumber positive significand, c)

/-- Passes over an exponent, from the letter that begins it. -/
def skipExponent (c : Cursor) : Except Fault Cursor :=
  let c := c.next
  let c := match c.rest with
    | '+' :: _ | '-' :: _ => c.next
    | _ => c
  match c.rest with
  | [] => .error (c.fault .badNumber)
  | x :: _ => if Text.isDigit x then .ok c.pastDigits else .error (c.faultAhead .badNumber)

/-- Passes over what follows the whole part of a number. -/
def skipFraction (c : Cursor) : Except Fault Cursor :=
  match c.rest with
  | '.' :: _ =>
    let c := c.next
    match c.rest with
    | x :: _ =>
      if Text.isDigit x then
        let c := c.pastDigits
        match c.rest with
        | 'e' :: _ | 'E' :: _ => c.skipExponent
        | _ => .ok c
      else .error (c.faultAhead .badNumber)
    | [] => .error (c.faultAhead .badNumber)
  | 'e' :: _ | 'E' :: _ => c.skipExponent
  | _ => .ok c

/-- Passes over a number behind its sign. -/
def skipNumber (c : Cursor) : Except Fault Cursor :=
  match c.rest with
  | [] => .error (c.fault .badNumber)
  | '0' :: rest =>
    let c := c.next
    match rest with
    | x :: _ => if Text.isDigit x then .error (c.faultAhead .badNumber) else c.skipFraction
    | [] => .ok c
  | x :: _ => if Text.isDigit x then c.pastDigits.skipFraction else .error (c.faultAhead .badNumber)

end Cursor

end RouterMenu.Json
