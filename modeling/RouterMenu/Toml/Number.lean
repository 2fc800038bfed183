import RouterMenu.Decimal.Read
import RouterMenu.Toml.Text

/-!
# Numbers in settings files

Whole numbers of 64 bits in base ten, sixteen, eight or two, and doubles. An underscore may stand
between two digits, and no zero before the other digits of a number in base ten.
-/

namespace RouterMenu.Toml

/-- The digits at the start of a text, without the underscores between them, and what follows. An
underscore that is not followed by a digit ends the text in error. -/
def run (isDigit : Char → Bool) : List Char → Option (List Char × List Char)
  | '_' :: c :: rest =>
    if isDigit c then (run isDigit rest).map fun (digits, rest) => (c :: digits, rest) else none
  | ['_'] => none
  | c :: rest =>
    if isDigit c then (run isDigit rest).map fun (digits, rest) => (c :: digits, rest)
    else some ([], c :: rest)
  | [] => some ([], [])

/-- Reads digits that begin with no underscore. -/
def digitRun (isDigit : Char → Bool) (s : List Char) : Option (List Char × List Char) :=
  match s with
  | c :: _ => if isDigit c then run isDigit s else none
  | [] => none

/-- Reads the sign of a number. -/
def sign (s : List Char) : List Char × List Char :=
  match s with
  | '+' :: rest => (['+'], rest)
  | '-' :: rest => (['-'], rest)
  | _ => ([], s)

/-- Reads the whole part of a number, with its sign. -/
def whole (s : List Char) : Option (List Char × List Char) := do
  let (mark, rest) := sign s
  match rest with
  | '0' :: rest => some (mark ++ ['0'], rest)
  | _ =>
    let (digits, rest) ← digitRun Text.isDigit rest
    some (mark ++ digits, rest)

/-- Reads a number in a base other than ten, behind the mark of the base. -/
def based (base : Nat) (s : List Char) : Option (Int × List Char) := do
  let isDigit (c : Char) : Bool := match hexDigit? c with
    | some d => d < base
    | none => false
  let (digits, rest) ← digitRun isDigit s
  let n := digits.foldl (fun n c => n * base + (hexDigit? c).getD 0) 0
  if n ≤ Text.maxI64 then some (n, rest) else none

/-- Reads a whole number. -/
def int (s : List Char) : Option (Int × List Char) :=
  match s with
  | '0' :: 'x' :: rest => based 16 rest
  | '0' :: 'o' :: rest => based 8 rest
  | '0' :: 'b' :: rest => based 2 rest
  | _ => do
    let (digits, rest) ← whole s
    let n ← Text.i64? digits
    some (n, rest)

/-- Reads a power of ten. -/
def power (s : List Char) : Option (List Char × List Char) :=
  match s with
  | 'e' :: rest | 'E' :: rest => do
    let (mark, rest) := sign rest
    let (digits, rest) ← digitRun Text.isDigit rest
    some ('e' :: mark ++ digits, rest)
  | _ => none

/-- Reads what makes a number a double: decimals, a power of ten, or both. -/
def fraction (s : List Char) : Option (List Char × List Char) :=
  match s with
  | '.' :: rest => do
    let (digits, rest) ← digitRun Text.isDigit rest
    match rest with
    | 'e' :: _ | 'E' :: _ =>
      let (exponent, rest) ← power rest
      some ('.' :: digits ++ exponent, rest)
    | _ => some ('.' :: digits, rest)
  | _ => power s

/-- Reads the name of a double that has no digits. -/
def named (s : List Char) : Option (Float × List Char) := do
  let (mark, rest) := sign s
  let x ← match rest.take 3 with
    | ['i', 'n', 'f'] => some (1.0 / 0.0)
    | ['n', 'a', 'n'] => some (0.0 / 0.0)
    | _ => none
  some (if mark = ['-'] then -x else x, rest.drop 3)

/-- Reads a double in digits; none is too large to be one. -/
def decimal (s : List Char) : Option (Float × List Char) := do
  let (w, rest) ← whole s
  let (f, rest) ← fraction rest
  let x ← Decimal.read? (w ++ f)
  if x == 1.0 / 0.0 then none else some (x, rest)

/-- Reads a double. -/
def float (s : List Char) : Option (Float × List Char) := (decimal s).or (named s)

end RouterMenu.Toml
