import RouterMenu.Record.Duration

/-!
# Fields

A field of a record has a name, a type and, if it takes part in the protocol at all, a name on
the wire. Its type decides what it holds and how text from the wire is read into it: anything
but a duration reads as the zero of its type when it makes no sense.
-/

namespace RouterMenu

/-- How text on the wire is read. -/
inductive Coercion where
  | text | flag | int | duration
deriving DecidableEq, Repr

namespace Coercion

/-- The words that mean yes, in any case. -/
def yesWords : List String := ["yes", "true", "t", "1"]

/-- A number of 64 bits, or zero. -/
def readInt (s : String) : Whole .i64 :=
  match Text.i64? s.toList with
  | some n => .narrow n
  | none => .zero

/-- Reads text as a scalar. -/
def decode (c : Coercion) (s : String) : Except DecodeError Value :=
  match c with
  | .text => .ok (.text s)
  | .flag => .ok (.flag (yesWords.any fun word => Text.sameLetters s word))
  | .int => .ok (.int (readInt s))
  | .duration =>
    match Duration.decode s with
    | .ok n => .ok (.int (.narrow n))
    | .error e => .error e

end Coercion

/-- What a field holds. A duration is a whole number of seconds. -/
inductive FieldType where
  | text
  | flag
  | int (t : IntType)
  | duration (t : IntType)
deriving DecidableEq, Repr

namespace FieldType

/-- The contents of a field. -/
@[reducible] def Carrier : FieldType → Type
  | .text => String
  | .flag => Bool
  | .int t | .duration t => Whole t

instance (t : FieldType) : DecidableEq t.Carrier :=
  match t with
  | .text => inferInstanceAs (DecidableEq String)
  | .flag => inferInstanceAs (DecidableEq Bool)
  | .int _ | .duration _ => inferInstanceAs (DecidableEq (Whole _))

/-- The contents of a field that was never set. -/
def zero : (t : FieldType) → t.Carrier
  | .text => ""
  | .flag => false
  | .int _ | .duration _ => Whole.zero

/-- How text is read into the field. -/
def coercion : FieldType → Coercion
  | .text => .text
  | .flag => .flag
  | .int _ => .int
  | .duration _ => .duration

/-- The contents as a scalar; a number beyond its 64 bits counts as zero. -/
def toValue : (t : FieldType) → t.Carrier → Value
  | .text, s => .text s
  | .flag, b => .flag b
  | .int _, n | .duration _, n => .int (.narrow n.val)

/-- A scalar as contents; `none` if it is of another kind. -/
def ofValue? : (t : FieldType) → Value → Option t.Carrier
  | .text, .text s => some s
  | .flag, .flag b => some b
  | .int _, .int n | .duration _, .int n => some (.narrow n.val)
  | _, _ => none

end FieldType

/-- A field of a record. -/
structure Field where
  /-- Its own name. -/
  name : String
  type : FieldType
  /-- Its name on the wire; a field without one is never sent and never received. -/
  wire? : Option String
deriving DecidableEq, Repr

/-- What the protocol knows of a field that takes part in it. -/
structure Descriptor where
  wire : String
  name : String
  coercion : Coercion
deriving DecidableEq, Repr

/-- The descriptor of a field, if it has a name on the wire. -/
def Field.descriptor? (f : Field) : Option Descriptor :=
  f.wire?.map fun wire => ⟨wire, f.name, f.type.coercion⟩

theorem Field.descriptor?_eq_none {f : Field} (h : f.wire? = none) : f.descriptor? = none := by
  rw [descriptor?, h, Option.map_none]

theorem Field.descriptor?_eq_some {f : Field} {wire : String} (h : f.wire? = some wire) :
    f.descriptor? = some ⟨wire, f.name, f.type.coercion⟩ := by
  rw [descriptor?, h, Option.map_some]

/-- The descriptors of the fields that take part in the protocol, in order. -/
def descriptors (fields : List Field) : List Descriptor := fields.filterMap Field.descriptor?

theorem descriptors_cons_none {f : Field} (h : f.descriptor? = none) (fields : List Field) :
    descriptors (f :: fields) = descriptors fields := List.filterMap_cons_none h

theorem descriptors_cons_some {f : Field} {d : Descriptor} (h : f.descriptor? = some d)
    (fields : List Field) : descriptors (f :: fields) = d :: descriptors fields :=
  List.filterMap_cons_some h

/-- The place and the descriptor of the field with a given name on the wire. -/
def lookup? (fields : List Field) (wire : String) : Option (Nat × Descriptor) :=
  let ds := descriptors fields
  match ds.findIdx? fun d => d.wire == wire with
  | some i => ds[i]?.map fun d => (i, d)
  | none => none

end RouterMenu
