import RouterMenu.Record.Value
import RouterMenu.Record.DecodeError
import RouterMenu.Text.Blank
import RouterMenu.Text.Cut

/-!
# Durations

A device writes a span of time as a count of days and a clock, `2d04:30:00`, and either may be
missing. Bare digits are seconds. The count of days must be a number, for a malformed one means
that the reply itself is damaged; the clock is read as well as possible, and counts as zero if
it says nothing or more than a day can hold.
-/

namespace RouterMenu.Duration

open Text

/-- A number, if 64 bits hold it. -/
def fit (n : Nat) : Option Nat := if n ≤ maxU64 then some n else none

/-- A span under construction. -/
structure Span where
  seconds : Nat := 0
  nanos : Nat := 0

/-- One unit's share of a span, if its seconds and nanoseconds stay within 64 bits. -/
def Span.add (total : Span) (seconds nanos : Nat) : Option Span := do
  let nanos ← fit (total.nanos + nanos)
  let seconds ← fit (seconds + nanos / 1000000000)
  let seconds ← fit (total.seconds + seconds)
  some ⟨seconds, nanos % 1000000000⟩

/-- The units of time, by how many nanoseconds or seconds they have. -/
inductive Unit where
  | nanos (each : Nat)
  | seconds (each : Nat)

/-- The unit a word names. A month has 30.44 days and a year 365.25. -/
def Unit.ofWord? (word : String) : Option Unit :=
  if ["nanos", "nsec", "ns"].contains word then some (.nanos 1)
  else if ["usec", "us", "µs"].contains word then some (.nanos 1000)
  else if ["millis", "msec", "ms"].contains word then some (.nanos 1000000)
  else if ["seconds", "second", "secs", "sec", "s"].contains word then some (.seconds 1)
  else if ["minutes", "minute", "mins", "min", "m"].contains word then some (.seconds 60)
  else if ["hours", "hour", "hrs", "hr", "h"].contains word then some (.seconds 3600)
  else if ["days", "day", "d"].contains word then some (.seconds 86400)
  else if ["weeks", "week", "wks", "wk", "w"].contains word then some (.seconds 604800)
  else if ["months", "month", "M"].contains word then some (.seconds 2630016)
  else if ["years", "year", "yrs", "yr", "y"].contains word then some (.seconds 31557600)
  else none

/-- Digits after the point, as a fraction of two numbers. -/
structure Fraction where
  numerator : Nat := 0
  denominator : Nat := 1

/-- One more digit of a fraction. -/
def Fraction.push (f : Fraction) (d : Nat) : Option Fraction := do
  let denominator ← fit (f.denominator * 10)
  let numerator ← fit (f.numerator * 10 + d)
  some ⟨numerator, denominator⟩

/-- The seconds and nanoseconds of a whole number of units. -/
def Unit.whole (n : Nat) : Unit → Option (Nat × Nat)
  | .nanos each => (fit (n * each)).map fun nanos => (0, nanos)
  | .seconds each => (fit (n * each)).map fun seconds => (seconds, 0)

/-- The seconds and nanoseconds of a fraction of a unit, cut off below a nanosecond, and from
hours upward below a second. -/
def Unit.part (f : Fraction) : Unit → Option (Nat × Nat)
  | .nanos each =>
    if each ≤ 1 then none
    else (fit (f.numerator * each)).map fun n => (0, n / f.denominator)
  | .seconds each =>
    if each < 3600 then
      (fit (f.numerator * (each * 1000000000))).map fun n => (0, n / f.denominator)
    else (fit (f.numerator * each)).map fun n => (n / f.denominator, 0)

/-- Adds a number of units, given by its digits and its word, to a span. -/
def Span.addUnits (total : Span) (n : Nat) (f : Option Fraction) (word : List Char) :
    Option Span := do
  let unit ← Unit.ofWord? (String.ofList word)
  let (seconds, nanos) ← unit.whole n
  let total ← total.add seconds nanos
  match f with
  | none => some total
  | some f =>
    let (seconds, nanos) ← unit.part f
    total.add seconds nanos

/-- Where a reader of `4h 30.5m` stands. -/
inductive Reading where
  /-- Before a number; `started` once a unit has been read. -/
  | number? (started : Bool)
  /-- Within the digits before the point. -/
  | whole (n : Nat)
  /-- Within the digits after the point. -/
  | fraction (n : Nat) (f : Fraction)
  /-- Within the word of the unit, latest letter first. -/
  | word (n : Nat) (f : Option Fraction) (letters : List Char)

/-- The letters of unit words. -/
def isUnitLetter (c : Char) : Bool :=
  ('a' ≤ c && c ≤ 'z') || ('A' ≤ c && c ≤ 'Z') || c == 'µ'

/-- Reads one more character. -/
def Reading.step (state : Span × Reading) (c : Char) : Option (Span × Reading) :=
  let (total, reading) := state
  match reading with
  | .number? _ =>
    match digit? c with
    | some d => some (total, .whole d)
    | none => if isBlank c then some state else none
  | .whole n =>
    match digit? c with
    | some d => (fit (n * 10 + d)).map fun n => (total, .whole n)
    | none =>
      if isBlank c then some state
      else if isUnitLetter c then some (total, .word n none [c])
      else if c = '.' then some (total, .fraction n {})
      else none
  | .fraction n f =>
    match digit? c with
    | some d => (f.push d).map fun f => (total, .fraction n f)
    | none =>
      if isBlank c then some state
      else if isUnitLetter c && 1 < f.denominator then some (total, .word n (some f) [c])
      else none
  | .word n f letters =>
    match digit? c with
    | some d => (total.addUnits n f letters.reverse).map fun total => (total, .whole d)
    | none =>
      if isBlank c then
        (total.addUnits n f letters.reverse).map fun total => (total, .number? true)
      else if isUnitLetter c then some (total, .word n f (c :: letters))
      else none

/-- What a reader that has reached the end has read. -/
def Reading.finish : Span × Reading → Option Span
  | (total, .number? started) => if started then some total else none
  | (total, .word n f letters) => total.addUnits n f letters.reverse
  | _ => none

/-- The whole seconds of a span written with units, such as `4h30m` or `1.5h`. -/
def units? (s : List Char) : Option Nat :=
  if s = ['0'] then some 0
  else do
    let state ← s.foldlM Reading.step ({}, .number? false)
    (Reading.finish state).map Span.seconds

/-- What is left of a number in 64 bits. -/
def wrap (n : Nat) : Nat := n % (maxU64 + 1)

/-- The seconds of a clock of exactly three numbers of 64 bits. Their sum is taken in 64 bits too,
so a clock with more hours than those can count shows what is left of it. -/
def hms? (s : List Char) : Option Nat :=
  match pieces ':' s with
  | [hours, minutes, seconds] => do
    let hours ← natUpTo? maxU64 hours
    let minutes ← natUpTo? maxU64 minutes
    let seconds ← natUpTo? maxU64 seconds
    if minutes < 60 ∧ seconds < 60 then some (wrap (hours * 3600 + minutes * 60 + seconds))
    else none
  | _ => none

/-- The longest clock: one second short of a day. -/
def maxClock : Nat := 23 * 3600 + 59 * 60 + 59

/-- The seconds of a clock, in whatever form it is written. -/
def clock? (s : List Char) : Option Nat :=
  if s.contains ':' then hms? s
  else if isNumeral s then natUpTo? maxU64 s
  else units? s

/-- The seconds of a clock; zero if it says nothing, nothing sensible, or too much. -/
def clock (s : List Char) : Nat :=
  match clock? s with
  | some n => if n ≤ maxClock then n else 0
  | none => 0

/-- The greatest number of seconds a duration can have. -/
def maxSeconds : Nat := maxI64

/-- The seconds in a day. -/
def secondsPerDay : Nat := 86400

/-- The seconds of a duration. -/
def decode (text : String) : Except DecodeError Nat :=
  let s := text.toList
  match cut 'd' s with
  | none =>
    if isNumeral s then .ok ((natUpTo? maxSeconds s).getD 0) else .ok (clock s)
  | some (days, rest) =>
    match if isNumeral days then natUpTo? (maxSeconds / secondsPerDay) days else none with
    | none => .error (.dayCount text)
    | some days => .ok (min maxSeconds (days * secondsPerDay + clock rest))

end RouterMenu.Duration
