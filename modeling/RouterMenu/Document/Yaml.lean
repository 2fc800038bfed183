import RouterMenu.Decimal.Read
import RouterMenu.Document.Basic

/-!
# Documents as YAML

Block style throughout, two spaces a level, no line ever folded. Text is written plain where a
reader would take it for this very text; else between single quotes, or between double quotes
if it holds what single quotes cannot hold. Text of several lines becomes a literal block.
-/

namespace RouterMenu.Document.Yaml

/-- The characters that end a line. -/
def isBreak (c : Char) : Bool :=
  c == '\n' || c == '\r' || c.toNat == 0x85 || c.toNat == 0x2028 || c.toNat == 0x2029

/-- Blanks and ends: what separates a mark from the text next to it. -/
def isGap (c : Char) : Bool := c == ' ' || c == '\t' || c == '\x00' || isBreak c

/-- The characters that may stand for themselves. -/
def isPrintable (c : Char) : Bool :=
  let n := c.toNat
  n == 0x0A || (0x20 ≤ n && n ≤ 0x7E) ||
    (0xA0 ≤ n && n != 0xFEFF && n != 0xFFFE && n != 0xFFFF)

/-- The integer of some digits in the given base, after the digits read before. -/
def radixValue (base acc : Nat) : List Char → Option Nat
  | [] => some acc
  | c :: rest =>
    let value :=
      if '0' ≤ c ∧ c ≤ '9' then c.toNat - '0'.toNat
      else if 'a' ≤ c ∧ c ≤ 'z' then c.toNat - 'a'.toNat + 10
      else if 'A' ≤ c ∧ c ≤ 'Z' then c.toNat - 'A'.toNat + 10
      else base
    if value < base then radixValue base (acc * base + value) rest else none

/-- An integer in hexadecimal, octal or binary digits, at most `max`. -/
def isRadix (max : Nat) : List Char → Bool
  | '0' :: mark :: digits =>
    let base := if mark = 'x' then 16 else if mark = 'o' then 8 else if mark = 'b' then 2 else 0
    match digits with
    | [] => false
    | _ =>
      match radixValue base 0 digits with
      | some n => base != 0 && n ≤ max
      | none => false
  | _ => false

/-- The text behind a sign, if there is one. -/
def unsigned : List Char → List Char
  | '+' :: rest | '-' :: rest => rest
  | s => s

/-- The text behind a plus sign, if there is one. -/
def unpositive : List Char → List Char
  | '+' :: rest => rest
  | s => s

/-- Digits after a leading zero: not a number, but close enough to be quoted. -/
def hasLeadingZero (s : List Char) : Bool :=
  match unsigned s with
  | '0' :: c :: rest => (c :: rest).all Text.isDigit
  | _ => false

/-- Whether a reader takes the text for a number that is not whole. -/
def isFloat (s : List Char) : Bool :=
  let body := unpositive s
  let doubled := match s, body with
    | '+' :: _, '+' :: _ | '+' :: _, '-' :: _ => true
    | _, _ => false
  !doubled &&
    ([".inf", ".Inf", ".INF"].any (·.toList == body) ||
      ["-.inf", "-.Inf", "-.INF", ".nan", ".NaN", ".NAN"].any (·.toList == s) ||
      match Decimal.digits? (unsigned body) with
      | some d => !d.toFloat.isInf
      | none => false)

/-- Whether a reader takes the text for something else than text. -/
def isScalar (s : List Char) : Bool :=
  ["", "null", "Null", "NULL", "~", "true", "True", "TRUE", "false", "False", "FALSE"].any
      (·.toList == s) ||
    isRadix 0xFFFFFFFFFFFFFFFFFFFFFFFFFFFFFFFF (unpositive s) ||
    (match s with
      | '-' :: rest => isRadix 0x80000000000000000000000000000000 rest
      | _ => false) ||
    hasLeadingZero s || isFloat s

/-- What in a text stands in the way of a style. -/
structure Traits where
  /-- A mark of the notation where it would be read as one. -/
  indicator : Bool := false
  lineBreak : Bool := false
  special : Bool := false
  edge : Bool := false
  trailingSpace : Bool := false
  breakSpace : Bool := false
  spaceBreak : Bool := false

/-- Marks that mean something at the start of a text. -/
def startMarks : List Char := "#,[]\x7b\x7d&*!|>\x27\"%@\x60".toList

/-- Collects the traits of a text: its rest, whether this is its start, whether a gap, a space or
a break came before. -/
def traitsFrom (t : Traits) (start afterGap afterSpace afterBreak : Bool) : List Char → Traits
  | [] => t
  | c :: rest =>
    let beforeGap := match rest with
      | [] => true
      | d :: _ => isGap d
    let indicator :=
      if start then
        startMarks.contains c || ((c == '?' || c == ':' || c == '-') && beforeGap)
      else (c == ':' && beforeGap) || (c == '#' && afterGap)
    let last := rest.isEmpty
    let space := c == ' '
    let isBreak := isBreak c
    let t : Traits :=
      { indicator := t.indicator || indicator
        lineBreak := t.lineBreak || isBreak
        special := t.special || !isPrintable c
        edge := t.edge || ((space || isBreak) && (start || last))
        trailingSpace := t.trailingSpace || (space && last)
        breakSpace := t.breakSpace || (space && afterBreak)
        spaceBreak := t.spaceBreak || (isBreak && afterSpace) }
    traitsFrom t false (isGap c) space isBreak rest

/-- The traits of a text. -/
def traits (s : List Char) : Traits :=
  let t := traitsFrom {} true true false false s
  if "---".toList.isPrefixOf s || "...".toList.isPrefixOf s then { t with indicator := true } else t

/-- The ways to write a text. -/
inductive Style where
  | plain | single | double | literal
deriving DecidableEq, Repr

/-- How a text is written; a key never spans lines. -/
def style (isKey : Bool) (s : List Char) : Style :=
  let t := traits s
  let quotes := if t.breakSpace || t.spaceBreak || t.special then .double else .single
  if isKey && t.lineBreak then .double
  else if s.contains '\n' then
    if t.trailingSpace || t.spaceBreak || t.special then .double else .literal
  else if isScalar s then quotes
  else if t.edge || t.breakSpace || t.spaceBreak || t.special || t.lineBreak || t.indicator then
    quotes
  else .plain

/-- Upper-case hexadecimal digits, at least `width` of them. -/
def hex (width n : Nat) : List Char :=
  let digits := (Text.hex n).map Text.upper
  List.replicate (width - digits.length) '0' ++ digits

/-- A character between double quotes. -/
def doubleChar (c : Char) : List Char :=
  let n := c.toNat
  if c = '"' ∨ c = '\\' then ['\\', c]
  else if isPrintable c && !isBreak c then [c]
  else '\\' ::
    (if n = 0 then ['0'] else if n = 7 then ['a'] else if n = 8 then ['b']
     else if n = 9 then ['t'] else if n = 10 then ['n'] else if n = 11 then ['v']
     else if n = 12 then ['f'] else if n = 13 then ['r'] else if n = 0x1B then ['e']
     else if n = 0x85 then ['N'] else if n = 0x2028 then ['L'] else if n = 0x2029 then ['P']
     else if n ≤ 0xFF then 'x' :: hex 2 n
     else if n ≤ 0xFFFF then 'u' :: hex 4 n
     else 'U' :: hex 8 n)

/-- The characters between single quotes; text goes on at the indentation after a break. -/
def singleChars (indent : Nat) (afterBreak : Bool) : List Char → List Char
  | [] => if afterBreak then List.replicate indent ' ' else []
  | c :: rest =>
    if c = ' ' then c :: singleChars indent afterBreak rest
    else if isBreak c then c :: singleChars indent true rest
    else
      let pad := if afterBreak then List.replicate indent ' ' else []
      let body := if c = '\x27' then [c, c] else [c]
      pad ++ body ++ singleChars indent false rest

/-- The lines of a literal block, each at the indentation. -/
def literalChars (indent : Nat) (afterBreak : Bool) : List Char → List Char
  | [] => []
  | c :: rest =>
    if isBreak c then c :: literalChars indent true rest
    else (if afterBreak then List.replicate indent ' ' else []) ++
      c :: literalChars indent false rest

/-- What follows the bar of a literal block: its indentation if the text begins with a blank, and
what becomes of the breaks at its end. -/
def literalHints (s : List Char) : List Char :=
  let lead := match s with
    | c :: _ => if c = ' ' || isBreak c then ['2'] else []
    | [] => []
  let chomp := match s.reverse with
    | [] => ['-']
    | [c] => if isBreak c then ['+'] else ['-']
    | c :: d :: _ => if !isBreak c then ['-'] else if isBreak d then ['+'] else []
  lead ++ chomp

/-- A text at the given indentation. -/
def textChars (isKey : Bool) (indent : Nat) (s : List Char) : List Char :=
  match style isKey s with
  | .plain => s
  | .single => '\x27' :: singleChars indent false s ++ ['\x27']
  | .double => '"' :: s.flatMap doubleChar ++ ['"']
  | .literal => '|' :: literalHints s ++ '\n' :: literalChars indent true s

/-- Ends the line, unless it has ended. -/
def endLine (s : List Char) : List Char :=
  match s.getLast? with
  | some c => if isBreak c then s else s ++ ['\n']
  | none => ['\n']

/-- Whether a key can stand before its colon. -/
def isSimpleKey (key : List Char) : Bool :=
  !key.any isBreak && key.foldl (fun n c => n + c.utf8Size) 0 ≤ 128

/-- What stands before the value of an entry. A key too long for one line is marked, and the
colon set off. -/
def keyChars (indent : Nat) (key : List Char) : List Char :=
  if isSimpleKey key then textChars true (indent + 2) key ++ [':']
  else
    '?' :: ' ' :: endLine (textChars false (indent + 2) key) ++ List.replicate indent ' ' ++ [':']

/-- Lines of which the first is already indented. -/
def joinLines (indent : Nat) : List (List Char) → List Char
  | [] => []
  | line :: rest => line ++ rest.flatMap fun line => List.replicate indent ' ' ++ line

mutual

/-- A document whose first line is already indented, to its end of line. -/
def block (indent : Nat) : Document → List Char
  | .null => "null\n".toList
  | .flag b => (if b then "true\n" else "false\n").toList
  | .int n => Text.ofInt n ++ ['\n']
  | .text s => endLine (textChars false (indent + 2) s.toList)
  | .list items =>
    if items.isEmpty then "[]\n".toList else joinLines indent (itemLines indent items)
  | .map entries =>
    if entries.isEmpty then "\x7b\x7d\n".toList else joinLines indent (entryLines indent entries)

/-- A document behind the colon of its entry, to its end of line. -/
def behindColon (indent : Nat) : Document → List Char
  | .null => " null\n".toList
  | .flag b => (if b then " true\n" else " false\n").toList
  | .int n => ' ' :: Text.ofInt n ++ ['\n']
  | .text s => ' ' :: endLine (textChars false (indent + 2) s.toList)
  | .list items =>
    if items.isEmpty then " []\n".toList
    else '\n' :: List.replicate indent ' ' ++ joinLines indent (itemLines indent items)
  | .map entries =>
    if entries.isEmpty then " \x7b\x7d\n".toList
    else
      '\n' :: List.replicate (indent + 2) ' ' ++
        joinLines (indent + 2) (entryLines (indent + 2) entries)

/-- The items of a list, each behind its dash. -/
def itemLines (indent : Nat) : List Document → List (List Char)
  | [] => []
  | item :: rest => ('-' :: ' ' :: block (indent + 2) item) :: itemLines indent rest

/-- The entries of a map, each behind its key. -/
def entryLines (indent : Nat) : List (String × Document) → List (List Char)
  | [] => []
  | (key, value) :: rest =>
    (keyChars indent key.toList ++ behindColon indent value) :: entryLines indent rest

end

end RouterMenu.Document.Yaml

namespace RouterMenu

/-- A document as YAML. -/
def Document.toYaml (d : Document) : String := String.ofList (Document.Yaml.block 0 d)

end RouterMenu
