import RouterMenu.Render.Grid
import RouterMenu.Document.Json
import RouterMenu.Document.Yaml

/-!
# Records for a reader

Five formats. A list of records becomes a table of the fields that are set on any of them, a
single record a list of what is set on it; JSON and YAML hold every field, and plain text only
the keys. What a table shows is what the protocol would carry: the cells are wire text under
wire names.
-/

namespace RouterMenu

/-- The formats of output. -/
inductive OutputFormat where
  | table | json | jsonCompact | yaml | plain
deriving DecidableEq, Repr

namespace Render

/-- What stands in a table for a scalar: nothing for a zero, unless it is a flag. -/
def cellText (v : Value) : String := if v.isFlag || !v.isZero then v.encode else ""

/-- The places of the columns of a table: the key, and every field set on some record. -/
def tableColumns (m : Menu) (records : List (Record m)) : List Nat :=
  let key? := (m.field? m.key).map Prod.fst
  (List.range (descriptors m.fields).length).filter fun i =>
    some i == key? ||
      records.any fun r => match r.get? i with
        | some v => !v.isZero
        | none => false

/-- A table: wire names, then one row for each record. -/
def tableRows (m : Menu) (records : List (Record m)) : List (List String) :=
  let columns := tableColumns m records
  let ds := descriptors m.fields
  let head := columns.map fun i => (ds[i]?.map Descriptor.wire).getD ""
  head :: records.map fun r => columns.map fun i => ((r.get? i).map cellText).getD ""

/-- A label of the given width, set off from its value; colored if asked for. -/
def label (color : Bool) (width : Nat) (name : String) : String :=
  let padded := String.ofList (List.replicate (width - name.utf8ByteSize) ' ') ++ name
  if color then "\x1b[36m" ++ padded ++ "\x1b[39m" else padded

/-- The fields a single record shows: those that are set, and every flag. -/
def detailEntries (m : Menu) (r : Record m) : List (String × String) :=
  r.entries.filterMap fun (d, v) =>
    if v.isFlag || !v.isZero then some (d.wire, v.encode) else none

/-- A line for every field a record shows, the names right-aligned. -/
def detail (m : Menu) (r : Record m) (color : Bool) : String :=
  let entries := detailEntries m r
  let width := entries.foldl (fun w entry => max w entry.1.utf8ByteSize) 0
  "\n".intercalate (entries.map fun (name, text) => label color width name ++ "  " ++ text)

/-- Records as a list of maps. -/
def documentOf {m : Menu} (records : List (Record m)) : Document :=
  .list (records.map Cells.toDocument)

/-- A list of records. -/
def list (format : OutputFormat) (m : Menu) (records : List (Record m)) : String :=
  match format with
  | .table => grid (tableRows m records)
  | .plain => "\n".intercalate (records.map m.keyOf)
  | .json => (documentOf records).toJsonIndented
  | .jsonCompact => (documentOf records).toJson
  | .yaml => (documentOf records).toYaml

/-- A single record. -/
def one (format : OutputFormat) (m : Menu) (r : Record m) (color : Bool) : String :=
  match format with
  | .table => detail m r color
  | .plain => m.keyOf r
  | .json => r.toDocument.toJsonIndented
  | .jsonCompact => r.toDocument.toJson
  | .yaml => r.toDocument.toYaml

end Render

end RouterMenu
