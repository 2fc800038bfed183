import RouterMenu.Text.Cut
import RouterMenu.Toml.Text

/-!
# Writing settings files

Text is written in the plainest way that holds it: between double quotes if nothing has to be
escaped, else between single quotes, else between three quotes of either kind, else with escapes.
-/

namespace RouterMenu.Toml

/-- A character that cannot be written without an escape. -/
def needsEscape (c : Char) : Bool :=
  c != '\t' && c != '\n' && (c < ' ' || c.toNat == 0x7F)

/-- The length of the longest run of a character. -/
def longestRun (c : Char) (s : List Char) : Nat :=
  go 0 0 s
where
  /-- The longest run, given the current one and the longest so far. -/
  go (current longest : Nat) : List Char → Nat
    | [] => max current longest
    | x :: rest => if x = c then go (current + 1) longest rest else go 0 (max current longest) rest

/-- An upper-case hexadecimal numeral of four digits. -/
def fourDigits (n : Nat) : List Char :=
  let digits := (Text.hex n).map Text.upper
  List.replicate (4 - digits.length) '0' ++ digits

/-- A character between double quotes; ends of lines stand for themselves between three. -/
def escapeChar (multiline : Bool) (c : Char) : List Char :=
  if c = '\x08' then ['\\', 'b']
  else if c = '\t' then ['\\', 't']
  else if c = '\n' then if multiline then [c] else ['\\', 'n']
  else if c = '\x0C' then ['\\', 'f']
  else if c = '\r' then ['\\', 'r']
  else if c = '"' then ['\\', '"']
  else if c = '\\' then ['\\', '\\']
  else if needsEscape c then '\\' :: 'u' :: fourDigits c.toNat
  else [c]

/-- What stands on both sides of text. -/
def enclose (mark s : List Char) : List Char := mark ++ s ++ mark

/-- Three quotes of a kind. -/
def triple (q : Quotes) : List Char := List.replicate 3 q.char

/-- A text as a value. -/
def writeText (text : String) : List Char :=
  let s := text.toList
  let codes := s.any needsEscape
  let backslash := s.contains '\\'
  let lines := s.contains '\n'
  -- an end of a line right behind three quotes does not count, so one is written before the text
  let start : List Char := if lines then ['\n'] else []
  if !codes && !backslash && !s.contains '"' && !lines then
    enclose ['"'] (s.flatMap (escapeChar false))
  else if !codes && !s.contains '\x27' && !lines then enclose ['\x27'] s
  else if !codes && !backslash && longestRun '"' s ≤ 2 then
    triple .double ++ start ++ s.flatMap unquoted ++ triple .double
  else if !codes && longestRun '\x27' s ≤ 2 then
    triple .single ++ start ++ s ++ triple .single
  else if lines then triple .double ++ start ++ s.flatMap (escapeChar true) ++ triple .double
  else enclose ['"'] (s.flatMap (escapeChar false))
where
  /-- A character between three double quotes, where a quote may stand for itself. -/
  unquoted (c : Char) : List Char := if c = '"' then [c] else escapeChar true c

/-- One part of a key. -/
def writeKey (text : String) : List Char :=
  let s := text.toList
  let codes := s.any fun c => needsEscape c || c == '\n'
  if !s.isEmpty && s.all isBare then s
  else if !codes && !s.contains '\\' && !s.contains '"' then
    enclose ['"'] (s.flatMap (escapeChar false))
  else if !codes && !s.contains '\x27' then enclose ['\x27'] s
  else enclose ['"'] (s.flatMap (escapeChar false))

end RouterMenu.Toml
