import RouterMenu.Toml.Text

/-!
# Dates and times in settings files

A date, a time of day, or a date and a time with a blank or a `T` between them, perhaps with an
offset. Days are checked against the calendar; a minute may have a leap second.
-/

namespace RouterMenu.Toml

/-- Reads exactly `n` digits, as a number from `lo` to `hi`. -/
def digits (n lo hi : Nat) (s : List Char) : Option (Nat × List Char) := do
  let found := s.take n
  if found.length < n then none
  let value ← Text.numeral? found
  if lo ≤ value ∧ value ≤ hi then some (value, s.drop n) else none

/-- The text behind a mark. -/
def behind (mark : Char) : List Char → Option (List Char)
  | c :: rest => if c = mark then some rest else none
  | [] => none

/-- Whether a year has a leap day. -/
def isLeap (year : Nat) : Bool :=
  (year % 4 == 0 && year % 100 != 0) || year % 400 == 0

/-- How many days a month has. -/
def daysOf (year month : Nat) : Nat :=
  if month = 2 then if isLeap year then 29 else 28
  else if month = 4 ∨ month = 6 ∨ month = 9 ∨ month = 11 then 30
  else 31

/-- The text behind a date. -/
def date (s : List Char) : Option (List Char) := do
  let (year, s) ← digits 4 0 9999 s
  let (month, s) ← digits 2 1 12 (← behind '-' s)
  let (_, s) ← digits 2 1 (daysOf year month) (← behind '-' s)
  some s

/-- The text behind a time of day. -/
def time (s : List Char) : Option (List Char) := do
  let (_, s) ← digits 2 0 23 s
  let (_, s) ← digits 2 0 59 (← behind ':' s)
  let (_, s) ← digits 2 0 60 (← behind ':' s)
  match s with
  | '.' :: rest =>
    let fraction := rest.takeWhile Text.isDigit
    if fraction.isEmpty then none else some (rest.drop fraction.length)
  | _ => some s

/-- The text behind an offset, if there is one. -/
def offset (s : List Char) : List Char :=
  match s with
  | 'Z' :: rest | 'z' :: rest => rest
  | '+' :: rest | '-' :: rest =>
    match digits 2 0 23 rest with
    | some (_, ':' :: minutes) =>
      match digits 2 0 59 minutes with
      | some (_, rest) => rest
      | none => s
    | _ => s
  | _ => s

/-- The text behind a time, if one follows a date. -/
def timeAfter (s : List Char) : List Char :=
  match s with
  | 'T' :: rest | 't' :: rest | ' ' :: rest =>
    match time rest with
    | some rest => offset rest
    | none => s
  | _ => s

/-- Reads a date or a time. -/
def moment (s : List Char) : Option (String × List Char) := do
  let rest ← ((date s).map timeAfter).or (time s)
  some (String.ofList (s.take (s.length - rest.length)), rest)

end RouterMenu.Toml
