/-!
# Tables

The entries of a settings file form tables within tables. A table comes about in one of four ways,
and the way decides what may still be added to it: what a header opened is not opened by another
header, what dotted keys built is extended by dotted keys of the same table only, what was implied
by the header of a table within it may still get a header of its own, and what was written in
line is closed.
-/

namespace RouterMenu.Toml

/-- How a table came about. -/
inductive Origin where
  /-- A header of its own. -/
  | headed
  /-- The header of a table within it. -/
  | implied
  /-- A dotted key. -/
  | dotted
  /-- Written as a value. -/
  | closed
deriving DecidableEq, Repr

/-- A value or a table. -/
inductive Item where
  | text (s : String)
  | int (n : Int)
  | float (x : Float)
  | flag (b : Bool)
  /-- A date, a time, or both. -/
  | moment (text : String)
  | array (items : List Item)
  | table (origin : Origin) (entries : List (String × Item))
  /-- An array of tables that each have a header: those before the latest, and the latest. -/
  | tables (earlier : List (List (String × Item))) (latest : List (String × Item))

/-- The entries of a table, each key once. -/
abbrev Entries := List (String × Item)

namespace Entries

/-- Adds an entry; its key must be new. -/
def add (k : String) (v : Item) (es : Entries) : Option Entries :=
  if (es.lookup k).isSome then none else some (es ++ [(k, v)])

/-- Puts another item in the place of an entry. -/
def replace (k : String) (v : Item) : Entries → Entries
  | [] => []
  | (l, w) :: rest => if l = k then (k, v) :: rest else (l, w) :: replace k v rest

/-- Adds an entry of which the key is dotted: `path` are the parts before the last. A part that
is missing becomes a table, and the one right before the last must be such a table. -/
def insert : List String → String → Item → Entries → Option Entries
  | [], k, v, es => es.add k v
  | p :: ps, k, v, es =>
    match es.lookup p with
    | none => (insert ps k v []).map fun sub => es ++ [(p, .table .dotted sub)]
    | some (.table .dotted sub) =>
      (insert ps k v sub).map fun sub => es.replace p (.table .dotted sub)
    | some (.table .implied sub) =>
      if ps.isEmpty then none
      else (insert ps k v sub).map fun sub => es.replace p (.table .implied sub)
    | some (.tables earlier latest) =>
      if ps.isEmpty then none
      else (insert ps k v latest).map fun latest => es.replace p (.tables earlier latest)
    | some _ => none

/-- Changes the table that a header names, along a path on which missing tables are implied. Of
an array of tables the latest is meant. -/
def within : List String → (Entries → Option Entries) → Entries → Option Entries
  | [], f, es => f es
  | p :: ps, f, es =>
    match es.lookup p with
    | none => (within ps f []).map fun sub => es ++ [(p, .table .implied sub)]
    | some (.table .closed _) => none
    | some (.table origin sub) =>
      (within ps f sub).map fun sub => es.replace p (.table origin sub)
    | some (.tables earlier latest) =>
      (within ps f latest).map fun latest => es.replace p (.tables earlier latest)
    | some _ => none

/-- Opens a table by its header. -/
def openTable (k : String) (es : Entries) : Option Entries :=
  match es.lookup k with
  | none => some (es ++ [(k, .table .headed [])])
  | some (.table .implied sub) => some (es.replace k (.table .headed sub))
  | some _ => none

/-- Opens one more table of an array by its header. -/
def openRow (k : String) (es : Entries) : Option Entries :=
  match es.lookup k with
  | none => some (es ++ [(k, .tables [] [])])
  | some (.tables earlier latest) => some (es.replace k (.tables (earlier ++ [latest]) []))
  | some _ => none

end Entries

end RouterMenu.Toml
