import RouterMenu.Text.Numeral

/-!
# Texts and keys in settings files

Text stands between double quotes, where a backslash escapes, or between single quotes, where
nothing does; with three quotes on each side it may run over several lines. No control character
may stand for itself but the tab, and, where lines may end, what ends them.
-/

namespace RouterMenu.Toml

/-- A blank within a line. -/
def isSpace (c : Char) : Bool := c == ' ' || c == '\t'

/-- The text behind blanks. -/
def skipSpace (s : List Char) : List Char := s.dropWhile isSpace

/-- A character that may stand for itself in text and in comments. -/
def isPlain (c : Char) : Bool := c == '\t' || (' ' ≤ c && c.toNat != 0x7F)

/-- The text behind the end of a line, if that is where it stands. -/
def newline? : List Char → Option (List Char)
  | '\n' :: rest | '\r' :: '\n' :: rest => some rest
  | _ => none

/-- The value of a hexadecimal digit. -/
def hexDigit? (c : Char) : Option Nat :=
  if '0' ≤ c ∧ c ≤ '9' then some (c.toNat - '0'.toNat)
  else if 'a' ≤ c ∧ c ≤ 'f' then some (c.toNat - 'a'.toNat + 10)
  else if 'A' ≤ c ∧ c ≤ 'F' then some (c.toNat - 'A'.toNat + 10)
  else none

/-- The character that hexadecimal digits stand for, if they stand for one. -/
def codePoint? (digits : List Char) : Option Char := do
  let n ← digits.foldlM (fun n c => (hexDigit? c).map (n * 16 + ·)) 0
  if n.isValidChar then some (Char.ofNat n) else none

/-- Reads what follows a backslash. -/
def escape? : List Char → Option (Char × List Char)
  | 'b' :: rest => some ('\x08', rest)
  | 't' :: rest => some ('\t', rest)
  | 'n' :: rest => some ('\n', rest)
  | 'f' :: rest => some ('\x0C', rest)
  | 'r' :: rest => some ('\r', rest)
  | '"' :: rest => some ('"', rest)
  | '\\' :: rest => some ('\\', rest)
  | 'u' :: rest =>
    if rest.length < 4 then none else (codePoint? (rest.take 4)).map (·, rest.drop 4)
  | 'U' :: rest =>
    if rest.length < 8 then none else (codePoint? (rest.take 8)).map (·, rest.drop 8)
  | _ => none

/-- The quotes that text stands between. -/
inductive Quotes where
  | double
  | single
deriving DecidableEq, Repr

/-- The quote as it is written. -/
def Quotes.char : Quotes → Char
  | .double => '"'
  | .single => '\x27'

/-- Reads text of one line, to the quote that ends it. The text so far is given in reverse, and
every step uses a character up. -/
def lineText (q : Quotes) : Nat → List Char → List Char → Option (String × List Char)
  | 0, _, _ => none
  | _, _, [] => none
  | fuel + 1, acc, c :: rest =>
    if c = q.char then some (String.ofList acc.reverse, rest)
    else if q = .double ∧ c = '\\' then do
      let (c, rest) ← escape? rest
      lineText q fuel (c :: acc) rest
    else if isPlain c then lineText q fuel (c :: acc) rest
    else none

/-- The text behind blanks and ends of lines. -/
def skipBreaks : List Char → List Char
  | '\r' :: '\n' :: rest => skipBreaks rest
  | c :: rest => if isSpace c || c == '\n' then skipBreaks rest else c :: rest
  | [] => []

/-- The text behind the blanks and ends of lines that a backslash at the end of a line takes with
it; there is such a backslash only if nothing but blanks stands between it and the end. -/
def lineEnd? (s : List Char) : Option (List Char) :=
  (newline? (skipSpace s)).map skipBreaks

/-- Reads text of several lines, to the three quotes that end it; up to two more may stand right
before those. -/
def linesText (q : Quotes) : Nat → List Char → List Char → Option (String × List Char)
  | 0, _, _ => none
  | _, _, [] => none
  | fuel + 1, acc, c :: rest =>
    if c = q.char then
      let more := (rest.takeWhile (· = c)).length
      if more < 2 then
        linesText q fuel (List.replicate (more + 1) c ++ acc) (rest.drop more)
      else
        let run := min (more + 1) 5
        some (String.ofList (List.replicate (run - 3) c ++ acc).reverse, rest.drop (run - 1))
    else if q = .double ∧ c = '\\' then
      match lineEnd? rest with
      | some rest => linesText q fuel acc rest
      | none => do
        let (c, rest) ← escape? rest
        linesText q fuel (c :: acc) rest
    else if isPlain c then linesText q fuel (c :: acc) rest
    else do
      let rest ← newline? (c :: rest)
      linesText q fuel ('\n' :: acc) rest

/-- Reads text of one line behind its first quote. -/
def oneLine (q : Quotes) (s : List Char) : Option (String × List Char) :=
  lineText q (s.length + 1) [] s

/-- Reads text behind its first quote. The end of a line right behind three quotes does not
count. -/
def text (q : Quotes) (s : List Char) : Option (String × List Char) :=
  match s with
  | a :: b :: rest =>
    if a = q.char ∧ b = q.char then
      linesText q (rest.length + 1) [] ((newline? rest).getD rest)
    else oneLine q s
  | _ => oneLine q s

/-- A character of a key that needs no quotes. -/
def isBare (c : Char) : Bool :=
  ('a' ≤ c && c ≤ 'z') || ('A' ≤ c && c ≤ 'Z') || Text.isDigit c || c == '_' || c == '-'

/-- Reads one part of a key. -/
def simpleKey : List Char → Option (String × List Char)
  | '"' :: rest => oneLine .double rest
  | '\x27' :: rest => oneLine .single rest
  | s =>
    let bare := s.takeWhile isBare
    if bare.isEmpty then none else some (String.ofList bare, s.dropWhile isBare)

/-- Reads a key: parts with points between them, and blanks around each. -/
def key : Nat → List Char → Option (List String × List Char)
  | 0, _ => none
  | fuel + 1, s => do
    let (part, rest) ← simpleKey (skipSpace s)
    match skipSpace rest with
    | '.' :: rest =>
      let (parts, rest) ← key fuel rest
      some (part :: parts, rest)
    | rest => some ([part], rest)

/-- How many parts a key may have, and how deep values may lie within each other. -/
def maxDepth : Nat := 80

end RouterMenu.Toml
