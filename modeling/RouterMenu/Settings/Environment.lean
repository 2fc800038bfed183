import RouterMenu.Decimal.Read
import RouterMenu.Settings.Node
import RouterMenu.Text.Blank
import RouterMenu.Toml.Text

/-!
# Settings in environment variables

The values of variables are read as what they look like: truth values, numbers, quoted text, lists
in brackets and tables in braces. A value that is not of such a form from its start to its end is
text, as it stands. The names of variables are read without regard to case, and two underscores
in a name lead from a table into a table within it.
-/

namespace RouterMenu.Settings.Environment

/-- A blank between the parts of a value. -/
def isBlank (c : Char) : Bool :=
  c == ' ' || c == '\t' || c == '\n' || c == '\r' || c == '\x0C'

/-- The text behind blanks. -/
def skip (s : List Char) : List Char := s.dropWhile isBlank

/-- A character that ends a value among others. -/
def isSeparator (c : Char) : Bool :=
  c == ',' || c == '\x7b' || c == '\x7d' || c == '[' || c == ']'

/-- What a value without quotes, brackets and braces looks like. -/
def plain (l : Layer) (s : List Char) : Node :=
  let number? : Option Node :=
    if s.contains '.' then (Decimal.read? s).map (.float l) else none
  match number? with
  | some n => n
  | none =>
    match Text.natUpTo? Text.maxU64 s with
    | some n => .unsigned l n
    | none =>
      match Text.i64? s with
      | some n => .signed l n
      | none => .text l (String.ofList s)

/-- Reads a key of a table in braces. -/
def key (s : List Char) : Option (String × List Char) :=
  match s with
  | '"' :: rest => Toml.oneLine .double rest
  | _ =>
    let found := s.takeWhile Toml.isBare
    if found.isEmpty then none else some (String.ofList found, s.dropWhile Toml.isBare)

mutual

/-- Reads a value and the blanks around it. -/
def value (l : Layer) : Nat → List Char → Option (Node × List Char)
  | 0, _ => none
  | fuel + 1, s =>
    let s := skip s
    let read? : Option (Node × List Char) :=
      if "true".toList.isPrefixOf s then some (.flag l true, s.drop 4)
      else if "false".toList.isPrefixOf s then some (.flag l false, s.drop 5)
      else match s with
        | '\x7b' :: rest => (pairs l fuel [] rest).map fun (es, rest) => (.table l es, rest)
        | '[' :: rest => (items l fuel rest).map fun (found, rest) => (.list l found, rest)
        | '"' :: rest => (Toml.oneLine .double rest).map fun (t, rest) => (.text l t, rest)
        | '\x27' :: c :: '\x27' :: rest => some (.letter l c, rest)
        | '\x27' :: _ => none
        | _ =>
          let found := s.takeWhile fun c => !isSeparator c
          some (plain l (Text.trim found), s.drop found.length)
    read?.map fun (n, rest) => (n, skip rest)

/-- Reads the values of a list, to its closing bracket. -/
def items (l : Layer) : Nat → List Char → Option (List Node × List Char)
  | 0, _ => none
  | _, ']' :: rest => some ([], rest)
  | fuel + 1, s => do
    let (n, rest) ← value l fuel s
    match rest with
    | ',' :: rest =>
      let (more, rest) ← items l fuel rest
      some (n :: more, rest)
    | ']' :: rest => some ([n], rest)
    | _ => none

/-- Reads the entries of a table, to its closing brace. -/
def pairs (l : Layer) : Nat → List (String × Node) → List Char →
    Option (List (String × Node) × List Char)
  | 0, _, _ => none
  | _, done, '\x7d' :: rest => some (done, rest)
  | fuel + 1, done, s => do
    let (k, rest) ← key (skip s)
    match skip rest with
    | '=' :: rest =>
      let (n, rest) ← value l fuel rest
      let done := Node.put k n done
      match rest with
      | ',' :: rest => pairs l fuel done rest
      | '\x7d' :: rest => some (done, rest)
      | _ => none
    | _ => none

end

/-- What the value of a variable looks like. -/
def read (l : Layer) (s : String) : Node :=
  match value l (2 * s.length + 2) s.toList with
  | some (n, []) => n
  | _ => .text l s

/-- The path that the name of a variable stands for, if it begins as given. Each pair of
underscores separates two parts if `splits` says so, and so does a point. -/
def path? (start : String) (splits : Bool) (name : String) : Option (List String) := do
  let s := Text.trim name.toList
  if start.toList.map Text.lower ≠ (s.take start.length).map Text.lower then none
  let rest := (s.drop start.length).map Text.lower
  let parts := Text.pieces '.' (if splits then split rest else rest)
  if parts.any List.isEmpty then none else some (parts.map String.ofList)
where
  /-- Writes a point for each pair of underscores. -/
  split : List Char → List Char
    | '_' :: '_' :: rest => '.' :: split rest
    | c :: rest => c :: split rest
    | [] => []

/-- The layer that variables make up. -/
def layer (start : String) (splits : Bool) (env : List (String × String)) : Node :=
  let l := Layer.environment start
  env.foldl (fun tree (name, s) =>
    match path? start splits name with
    | some path => tree.overlay (Node.nest l (read l s) path)
    | none => tree) (.table l [])

end RouterMenu.Settings.Environment
