import RouterMenu.Menu.Basic

/-!
# Documents

What is written out as JSON or YAML: scalars, lists, and maps whose keys keep their order.
-/

namespace RouterMenu

/-- A structured value. -/
inductive Document where
  | null
  | flag (b : Bool)
  | int (n : Int)
  | text (s : String)
  | list (items : List Document)
  | map (entries : List (String × Document))

namespace Document

/-- A text that may be missing. -/
def optional : Option String → Document
  | some s => .text s
  | none => .null

end Document

/-- The contents of a field. -/
def FieldType.toDocument : (t : FieldType) → t.Carrier → Document
  | .text, s => .text s
  | .flag, b => .flag b
  | .int _, n | .duration _, n => .int n.val

namespace Cells

/-- The fields by their own names, also those that take no part in the protocol. -/
def toEntries : {fields : List Field} → Cells fields → List (String × Document)
  | [], .nil => []
  | f :: _, .cons x rest => (f.name, f.type.toDocument x) :: rest.toEntries

/-- A record as a map. -/
def toDocument {fields : List Field} (r : Cells fields) : Document := .map r.toEntries

end Cells

end RouterMenu
