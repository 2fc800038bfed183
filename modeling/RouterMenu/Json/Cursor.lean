import RouterMenu.Text.Quoted
import RouterMenu.Decimal.Shortest

/-!
# Reading JSON: places and faults

JSON is read from left to right without looking back, so the first fault is the one reported. It
names its place by line and column; a column counts the bytes before it on its line.
-/

namespace RouterMenu.Json

/-- What was met where something else was wanted. -/
inductive Found where
  | null
  | flag (b : Bool)
  | int (n : Int)
  | float (x : Float)
  | text (s : String)
  | list
  | map

/-- What a message calls it. -/
def Found.describe : Found → String
  | .null => "null"
  | .flag b => "boolean \x60" ++ (if b then "true" else "false") ++ "\x60"
  | .int n => "integer \x60" ++ String.ofList (Text.ofInt n) ++ "\x60"
  | .float x => "floating point \x60" ++ Decimal.marked x ++ "\x60"
  | .text s => "string " ++ Text.quoted s
  | .list => "sequence"
  | .map => "map"

/-- Why text is no JSON, or not the JSON that was wanted. -/
inductive Cause where
  | endInList | endInMap | endInText | endInValue
  | wantsColon | wantsListComma | wantsMapComma | wantsIdent | wantsValue
  | badEscape | badNumber | hugeNumber | control
  | keyNotText | loneSurrogate | halfEscape
  | trailingComma | trailingText
  | wrongType (found : Found) (wanted : String)
  | wrongValue (found : Found) (wanted : String)
  | repeated (name : String)

/-- What is reported about it. -/
def Cause.message : Cause → String
  | .endInList => "EOF while parsing a list"
  | .endInMap => "EOF while parsing an object"
  | .endInText => "EOF while parsing a string"
  | .endInValue => "EOF while parsing a value"
  | .wantsColon => "expected \x60:\x60"
  | .wantsListComma => "expected \x60,\x60 or \x60]\x60"
  | .wantsMapComma => "expected \x60,\x60 or \x60\x7d\x60"
  | .wantsIdent => "expected ident"
  | .wantsValue => "expected value"
  | .badEscape => "invalid escape"
  | .badNumber => "invalid number"
  | .hugeNumber => "number out of range"
  | .control => "control character (\\u0000-\\u001F) found while parsing a string"
  | .keyNotText => "key must be a string"
  | .loneSurrogate => "lone leading surrogate in hex escape"
  | .halfEscape => "unexpected end of hex escape"
  | .trailingComma => "trailing comma"
  | .trailingText => "trailing characters"
  | .wrongType found wanted => "invalid type: " ++ found.describe ++ ", expected " ++ wanted
  | .wrongValue found wanted => "invalid value: " ++ found.describe ++ ", expected " ++ wanted
  | .repeated name => "duplicate field \x60" ++ name ++ "\x60"

/-- A fault and its place. -/
structure Fault where
  cause : Cause
  line : Nat
  column : Nat

/-- What is reported about it. -/
def Fault.message (f : Fault) : String :=
  let line := f.line
  let column := f.column
  f.cause.message ++ s!" at line {line} column {column}"

/-- The text that is left, and the place where it begins. -/
structure Cursor where
  rest : List Char
  line : Nat := 1
  column : Nat := 0


namespace Cursor

/-- A fault at the cursor. -/
def fault (c : Cursor) (cause : Cause) : Fault := ⟨cause, c.line, c.column⟩

/-- A fault at the next character, which is counted in. -/
def faultAhead (c : Cursor) (cause : Cause) : Fault :=
  match c.rest with
  | [] => c.fault cause
  | '\n' :: _ => ⟨cause, c.line + 1, 0⟩
  | _ :: _ => ⟨cause, c.line, c.column + 1⟩

/-- The cursor behind a character. -/
def past (c : Cursor) (x : Char) (rest : List Char) : Cursor :=
  if x = '\n' then ⟨rest, c.line + 1, 0⟩ else ⟨rest, c.line, c.column + x.utf8Size⟩

/-- The cursor behind the next character. -/
def next (c : Cursor) : Cursor :=
  match c.rest with
  | [] => c
  | x :: rest => c.past x rest

/-- The white space of JSON. -/
def isSpace (x : Char) : Bool := x == ' ' || x == '\n' || x == '\t' || x == '\r'

/-- The place behind the white space at the start of some text. -/
def spaceFrom (line column : Nat) : List Char → Cursor
  | [] => ⟨[], line, column⟩
  | x :: rest =>
    if x = '\n' then spaceFrom (line + 1) 0 rest
    else if isSpace x then spaceFrom line (column + 1) rest
    else ⟨x :: rest, line, column⟩

/-- The cursor behind white space. -/
def skipSpace (c : Cursor) : Cursor := spaceFrom c.line c.column c.rest

/-- Reads the rest of a word of which the first letter has been read. -/
def ident (c : Cursor) : List Char → Except Fault Cursor
  | [] => .ok c
  | wanted :: more =>
    match c.rest with
    | [] => .error (c.fault .endInValue)
    | x :: rest =>
      let behind := c.past x rest
      if x = wanted then behind.ident more else .error (c.faultAhead .wantsIdent)

end Cursor

end RouterMenu.Json
