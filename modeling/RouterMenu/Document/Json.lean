import RouterMenu.Document.Basic

/-!
# Documents as JSON

Two layouts of one text: compact, without any blank, and indented, with two spaces for each
level and an entry on every line. Empty lists and maps stay on one line in both.
-/

namespace RouterMenu.Document

/-- A character inside a JSON string. Only what must be escaped is. -/
def jsonChar (c : Char) : List Char :=
  match c with
  | '"' => ['\\', '"']
  | '\\' => ['\\', '\\']
  | '\x08' => ['\\', 'b']
  | '\x0c' => ['\\', 'f']
  | '\n' => ['\\', 'n']
  | '\r' => ['\\', 'r']
  | '\t' => ['\\', 't']
  | _ =>
    if c < ' ' then
      let digits := Text.hex c.toNat
      '\\' :: 'u' :: List.replicate (4 - digits.length) '0' ++ digits
    else [c]

/-- A JSON string. -/
def jsonText (s : String) : List Char := '"' :: s.toList.flatMap jsonChar ++ ['"']

/-- How the parts of a document are laid out. -/
inductive Layout where
  | compact
  /-- Every entry on a line of its own, at the given depth. -/
  | indented (depth : Nat)

namespace Layout

/-- The layout of what is inside. -/
def deeper : Layout → Layout
  | .compact => .compact
  | .indented depth => .indented (depth + 1)

/-- What stands before an entry and before a closing bracket. -/
def newline : Layout → List Char
  | .compact => []
  | .indented depth => '\n' :: List.replicate (2 * depth) ' '

/-- What stands between a key and its value. -/
def colon : Layout → List Char
  | .compact => [':']
  | .indented _ => [':', ' ']

/-- Entries between brackets. -/
def enclose (l : Layout) (opening closing : Char) (entries : List (List Char)) : List Char :=
  match entries with
  | [] => [opening, closing]
  | first :: rest =>
    opening :: (l.deeper.newline ++ first ++
      rest.flatMap (fun entry => ',' :: (l.deeper.newline ++ entry)) ++ l.newline ++ [closing])

end Layout

mutual

/-- A document in the given layout. -/
def jsonChars (l : Layout) : Document → List Char
  | .null => "null".toList
  | .flag b => (if b then "true" else "false").toList
  | .int n => Text.ofInt n
  | .text s => jsonText s
  | .list items => l.enclose '[' ']' (jsonItems l.deeper items)
  | .map entries => l.enclose '\x7b' '\x7d' (jsonEntries l.deeper entries)

/-- The items of a list, each in the given layout. -/
def jsonItems (l : Layout) : List Document → List (List Char)
  | [] => []
  | item :: rest => jsonChars l item :: jsonItems l rest

/-- The entries of a map, each in the given layout. -/
def jsonEntries (l : Layout) : List (String × Document) → List (List Char)
  | [] => []
  | (key, value) :: rest => (jsonText key ++ l.colon ++ jsonChars l value) :: jsonEntries l rest

end

/-- JSON without blanks. -/
def toJson (d : Document) : String := String.ofList (jsonChars .compact d)

/-- JSON with an entry on every line. -/
def toJsonIndented (d : Document) : String := String.ofList (jsonChars (.indented 0) d)

end RouterMenu.Document
