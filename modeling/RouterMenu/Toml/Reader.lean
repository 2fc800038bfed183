import RouterMenu.Toml.Moment
import RouterMenu.Toml.Number
import RouterMenu.Toml.Table

/-!
# Files of entries

A file is a sequence of lines: headers, which open tables, and entries, which go to the table
opened last. Values may run over several lines, but nothing follows them on the last one except a
comment.
-/

namespace RouterMenu.Toml

/-- The text behind a comment, if one stands there. -/
def skipComment (s : List Char) : List Char :=
  match s with
  | '#' :: rest => rest.dropWhile isPlain
  | _ => s

/-- The text behind blanks, comments and ends of lines. -/
def skipLines : Nat → List Char → List Char
  | 0, s => s
  | fuel + 1, s =>
    match skipSpace s with
    | '#' :: rest =>
      match newline? (skipComment ('#' :: rest)) with
      | some rest => skipLines fuel rest
      | none => '#' :: rest
    | rest =>
      match newline? rest with
      | some rest => skipLines fuel rest
      | none => rest

/-- Reads the word `true` or `false`. -/
def flag (s : List Char) : Option (Bool × List Char) :=
  if "true".toList.isPrefixOf s then some (true, s.drop 4)
  else if "false".toList.isPrefixOf s then some (false, s.drop 5)
  else none

/-- Reads a value that starts like a number. -/
def numeric (s : List Char) : Option (Item × List Char) :=
  ((moment s).map fun (m, rest) => (Item.moment m, rest)).or
    (((float s).map fun (x, rest) => (Item.float x, rest)).or
      ((int s).map fun (n, rest) => (Item.int n, rest)))

/-- Reads a value that holds no other. -/
def scalar (s : List Char) : Option (Item × List Char) :=
  match s with
  | '"' :: rest => (text .double rest).map fun (t, rest) => (.text t, rest)
  | '\x27' :: rest => (text .single rest).map fun (t, rest) => (.text t, rest)
  | 't' :: _ | 'f' :: _ => (flag s).map fun (b, rest) => (.flag b, rest)
  | _ => numeric s

mutual

/-- Reads a value; `depth` more may lie within each other. -/
def value (depth : Nat) : Nat → List Char → Option (Item × List Char)
  | 0, _ => none
  | fuel + 1, s =>
    match depth, s with
    | depth + 1, '[' :: rest =>
      (items depth fuel rest).map fun (found, rest) => (.array found, rest)
    | depth + 1, '\x7b' :: rest => do
      match skipSpace rest with
      | '\x7d' :: rest => some (.table .closed [], rest)
      | rest =>
        let (entries, rest) ← pairs depth fuel [] rest
        some (.table .closed entries, rest)
    | _, s => scalar s

/-- Reads the values of an array, to its closing bracket. -/
def items (depth : Nat) : Nat → List Char → Option (List Item × List Char)
  | 0, _ => none
  | fuel + 1, s => do
    match skipLines s.length s with
    | ']' :: rest => some ([], rest)
    | s =>
      let (first, rest) ← value depth fuel s
      match skipLines rest.length rest with
      | ',' :: rest =>
        let (more, rest) ← items depth fuel rest
        some (first :: more, rest)
      | ']' :: rest => some ([first], rest)
      | _ => none

/-- Reads the entries of a table in line, to its closing brace. -/
def pairs (depth : Nat) : Nat → Entries → List Char → Option (Entries × List Char)
  | 0, _, _ => none
  | fuel + 1, entries, s => do
    let (parts, rest) ← key maxDepth s
    let rest ← behind '=' rest
    let (v, rest) ← value depth fuel (skipSpace rest)
    let entries ← entries.insert parts.dropLast (parts.getLast?.getD "") v
    match skipSpace rest with
    | ',' :: rest => pairs depth fuel entries rest
    | '\x7d' :: rest => some (entries, rest)
    | _ => none

end

/-- The text behind the end of a line on which only a comment may be left. -/
def endLine (s : List Char) : Option (List Char) :=
  match skipComment (skipSpace s) with
  | [] => some []
  | rest => newline? rest

/-- What has been read of a file: the entries, and the table that was opened last. -/
structure File where
  entries : Entries := []
  path : List String := []

/-- Reads a header, behind its first bracket. -/
def header (f : File) (s : List Char) : Option (File × List Char) := do
  let (isRow, s) := match s with
    | '[' :: rest => (true, rest)
    | s => (false, s)
  let (path, rest) ← key maxDepth s
  let rest ← behind ']' rest
  let rest ← if isRow then behind ']' rest else some rest
  let rest ← endLine rest
  let last := path.getLast?.getD ""
  let opened ← f.entries.within path.dropLast fun es =>
    if isRow then es.openRow last else es.openTable last
  some (⟨opened, path⟩, rest)

/-- Reads an entry. -/
def entry (f : File) (s : List Char) : Option (File × List Char) := do
  let (parts, rest) ← key maxDepth s
  let rest ← behind '=' rest
  let rest := skipSpace rest
  let (v, rest) ← value maxDepth (2 * rest.length + 2) rest
  let rest ← endLine rest
  let entries ← f.entries.within f.path fun es =>
    es.insert parts.dropLast (parts.getLast?.getD "") v
  some ({ f with entries }, rest)

/-- Reads line after line; each uses a character up at least. -/
def lines : Nat → File → List Char → Option File
  | 0, f, s => if s.isEmpty then some f else none
  | fuel + 1, f, s =>
    match skipSpace s with
    | [] => some f
    | '#' :: rest => do lines fuel f (← endLine ('#' :: rest))
    | '[' :: rest => do
      let (f, rest) ← header f rest
      lines fuel f rest
    | s =>
      match newline? s with
      | some rest => lines fuel f rest
      | none => do
        let (f, rest) ← entry f s
        lines fuel f rest

/-- The entries of a file, unless it breaks the rules. A mark of the byte order at its start does
not count. -/
def read (file : String) : Option Entries :=
  let s := match file.toList with
    | '\uFEFF' :: rest => rest
    | s => s
  (lines (s.length + 1) {} s).map File.entries

end RouterMenu.Toml
