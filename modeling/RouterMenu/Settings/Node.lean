import RouterMenu.Decimal.Shortest
import RouterMenu.Text.Cut
import RouterMenu.Text.Quoted
import RouterMenu.Toml.Table

/-!
# Layers of settings

Settings come in layers: what is built in, what a file says, and what the environment says. Laid
over each other the layers make one tree, in which every node still knows the layer it comes from,
so that whoever finds fault with it can be told where to look.
-/

namespace RouterMenu.Settings

/-- Where a node comes from. -/
inductive Layer where
  | builtin
  /-- A file, by the path that is shown to users. -/
  | file (path : String)
  /-- Environment variables whose names have the same start. -/
  | environment (start : String)
deriving DecidableEq, Repr

/-- A tree of settings. The entries of a table are ordered by their keys. -/
inductive Node where
  | text (layer : Layer) (s : String)
  | letter (layer : Layer) (c : Char)
  | flag (layer : Layer) (b : Bool)
  | signed (layer : Layer) (n : Int)
  | unsigned (layer : Layer) (n : Nat)
  | float (layer : Layer) (x : Float)
  | list (layer : Layer) (items : List Node)
  | table (layer : Layer) (entries : List (String × Node))

namespace Node

/-- The layer a node comes from; that of a table is the latest that says anything about it. -/
def layer : Node → Layer
  | .text l _ | .letter l _ | .flag l _ | .signed l _ | .unsigned l _ | .float l _ | .list l _
  | .table l _ => l

/-- A character in single quotes. -/
def quotedLetter (c : Char) : String :=
  let shown :=
    if c = '\x27' then ['\\', '\x27'] else if c = '"' then ['"'] else Text.quoteChar c
  "'" ++ String.ofList shown ++ "'"

/-- What a message calls the node. -/
def describe : Node → String
  | .text _ s => "string " ++ Text.quoted s
  | .letter _ c => "char " ++ quotedLetter c
  | .flag _ b => "bool " ++ (if b then "true" else "false")
  | .signed _ n => "signed int `" ++ String.ofList (Text.ofInt n) ++ "`"
  | .unsigned _ n => "unsigned int `" ++ String.ofList (Text.ofNat n) ++ "`"
  | .float _ x => "float `" ++ Decimal.plain x ++ "`"
  | .list .. => "sequence"
  | .table .. => "map"

/-- Puts an entry in its place among others ordered by their keys, in place of one with the same
key. -/
def put (k : String) (v : Node) : List (String × Node) → List (String × Node)
  | [] => [(k, v)]
  | (l, w) :: rest =>
    if l = k then (k, v) :: rest
    else if k < l then (k, v) :: (l, w) :: rest
    else (l, w) :: put k v rest

mutual

/-- Lays a node over another: tables are laid over each other entry by entry, and everything else
is covered. -/
def overlay (old : Node) : Node → Node
  | .table l entries =>
    match old with
    | .table _ olds => .table l (overlayEntries olds entries)
    | _ => .table l entries
  | new => new

/-- Lays entries over others. -/
def overlayEntries (olds : List (String × Node)) : List (String × Node) → List (String × Node)
  | [] => olds
  | (k, v) :: rest =>
    let laid := match olds.lookup k with
      | some old => overlay old v
      | none => v
    overlayEntries (put k laid olds) rest

end

/-- A node that hangs at the end of a path. -/
def nest (layer : Layer) (v : Node) : List String → Node
  | [] => v
  | k :: path => .table layer [(k, nest layer v path)]

end Node

end RouterMenu.Settings

namespace RouterMenu.Toml

open Settings (Layer Node)

/-- The key of a table that stands for a date or a time. -/
def momentKey : String := "$__toml_private_datetime"

mutual

/-- What a file says at one place. -/
def Item.toNode (l : Layer) : Item → Node
  | .text s => .text l s
  | .int n => .signed l n
  | .float x => .float l x
  | .flag b => .flag l b
  | .moment text => .table l [(momentKey, .text l text)]
  | .array found => .list l (itemNodes l found)
  | .table _ entries => .table l (entryNodes l [] entries)
  | .tables earlier latest => .list l (rowNodes l earlier ++ [.table l (entryNodes l [] latest)])

/-- What a file says in an array. -/
def itemNodes (l : Layer) : List Item → List Node
  | [] => []
  | item :: rest => item.toNode l :: itemNodes l rest

/-- What a file says in a table, after the entries before. -/
def entryNodes (l : Layer) (done : List (String × Node)) :
    List (String × Item) → List (String × Node)
  | [] => done
  | (k, item) :: rest => entryNodes l (Node.put k (item.toNode l) done) rest

/-- What a file says in an array of tables. -/
def rowNodes (l : Layer) : List (List (String × Item)) → List Node
  | [] => []
  | row :: rest => .table l (entryNodes l [] row) :: rowNodes l rest

end

end RouterMenu.Toml
