import RouterMenu.Record.Cells

/-!
# Menus

A device keeps its configuration in menus, each a collection of objects with the same fields. A
menu is its path, two names of its objects for a reader, the wire name of the field that
identifies an object, and the fields. One set of operations serves them all.
-/

namespace RouterMenu

/-- A kind of object a device keeps. -/
structure Menu where
  /-- What a message about malformed input calls its records. -/
  title : String
  /-- Where it lives, without a verb. -/
  path : String
  /-- What one of its objects is called. -/
  kind : String
  /-- The wire name of the field that identifies an object. -/
  key : String
  fields : List Field
deriving DecidableEq, Repr

/-- An object of a menu. -/
abbrev Record (m : Menu) : Type := Cells m.fields

namespace Menu

/-- The wire name of the id a device assigns to every object. -/
def idWire : String := ".id"

/-- What identifies an object; nothing if there is no such object. -/
def keyOf (m : Menu) (r : Record m) : String := r.textOf m.key

/-- The path of a command. -/
def verb (m : Menu) (verb : String) : String := m.path ++ "/" ++ verb

/-- The place and the descriptor of the field with a given name on the wire. -/
def field? (m : Menu) (wire : String) : Option (Nat × Descriptor) := lookup? m.fields wire

end Menu

namespace Field

/-- A field of text. -/
def text (name wire : String) : Field := ⟨name, .text, some wire⟩

/-- A field that is true or false. -/
def flag (name wire : String) : Field := ⟨name, .flag, some wire⟩

/-- A field with a whole number of the given range. -/
def int (t : IntType) (name wire : String) : Field := ⟨name, .int t, some wire⟩

/-- A field with a number of seconds. -/
def duration (t : IntType) (name wire : String) : Field := ⟨name, .duration t, some wire⟩

/-- A field of text that stays with its owner. -/
def note (name : String) : Field := ⟨name, .text, none⟩

end Field

end RouterMenu
