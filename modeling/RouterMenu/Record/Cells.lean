import RouterMenu.Record.Field
import RouterMenu.Wire.Sentence
import RouterMenu.Wire.Command

/-!
# Records

A record over a list of fields holds one cell for each of them. Reading, writing and comparing
records go along the list, so a fact about one field carries over to every record there is.
Fields that take part in the protocol are numbered in order, and a record shows itself to the
protocol as the list of its `entries`.
-/

namespace RouterMenu

/-- The contents of the given fields, in order. -/
inductive Cells : List Field → Type where
  | nil : Cells []
  | cons {f : Field} {fields : List Field} (x : f.type.Carrier) (rest : Cells fields) :
      Cells (f :: fields)

namespace Cells

variable {fields : List Field}

/-- Compares cell by cell. -/
def decEq : {fields : List Field} → (r s : Cells fields) → Decidable (r = s)
  | [], .nil, .nil => isTrue rfl
  | _ :: _, .cons x r, .cons y s =>
    if h : x = y then
      match decEq r s with
      | isTrue h' => isTrue (by rw [h, h'])
      | isFalse h' => isFalse fun e => h' (by cases e; rfl)
    else isFalse fun e => h (by cases e; rfl)

instance : DecidableEq (Cells fields) := decEq

/-- Every field at the zero of its type. -/
def zero : (fields : List Field) → Cells fields
  | [] => .nil
  | f :: fields => .cons f.type.zero (zero fields)

/-- The scalar in the `i`-th field that takes part in the protocol; `none` past the last. -/
def get? : {fields : List Field} → Cells fields → Nat → Option Value
  | [], .nil, _ => none
  | f :: _, .cons x rest, i =>
    match f.wire?, i with
    | none, i => rest.get? i
    | some _, 0 => some (f.type.toValue x)
    | some _, i + 1 => rest.get? i

/-- Puts a scalar into the `i`-th field that takes part in the protocol. A scalar of another kind
than the field, or a place past the last, changes nothing. -/
def set : {fields : List Field} → Cells fields → Nat → Value → Cells fields
  | [], .nil, _, _ => .nil
  | f :: _, .cons x rest, i, v =>
    match f.wire?, i with
    | none, i => .cons x (rest.set i v)
    | some _, 0 => .cons ((f.type.ofValue? v).getD x) rest
    | some _, i + 1 => .cons x (rest.set i v)

/-- The fields that take part in the protocol, with what they hold. -/
def entries : {fields : List Field} → Cells fields → List (Descriptor × Value)
  | [], .nil => []
  | f :: _, .cons x rest =>
    match f.descriptor? with
    | some d => (d, f.type.toValue x) :: rest.entries
    | none => rest.entries

/-- Whether a field is sent and shown: a flag always, anything else unless it is zero. -/
def isSet (entry : Descriptor × Value) : Bool := entry.1.coercion == .flag || !entry.2.isZero

/-- The text of the field with a given name on the wire; nothing if there is no such text. -/
def textOf (r : Cells fields) (wire : String) : String :=
  match r.entries.find? fun entry => entry.1.wire == wire with
  | some (_, .text s) => s
  | _ => ""

/-- The command that sets every field of a record that is sent. Unset fields are left out, so
that the device keeps its own defaults for them. -/
def marshal (path : String) (r : Cells fields) : Wire.Command :=
  { path
    clauses := (r.entries.filter isSet).map fun (d, v) => .attr d.wire v.encode }

/-- The text a row holds for a field: under its name on the wire, or else under its own name in
any case. -/
def find? (row : Wire.Sentence) (d : Descriptor) : Option String :=
  match row.get? d.wire with
  | some s => some s
  | none => (row.pairs.find? fun pair => Text.sameLetters pair.1 d.name).map Prod.snd

/-- What a row says about one field. -/
def readField (row : Wire.Sentence) (f : Field) : Except DecodeError f.type.Carrier :=
  match f.descriptor? with
  | none => .ok f.type.zero
  | some d =>
    match find? row d with
    | none => .ok f.type.zero
    | some s =>
      match d.coercion.decode s with
      | .error e => .error (.field d.wire e)
      | .ok v => .ok ((f.type.ofValue? v).getD f.type.zero)

/-- The record a row describes. Fields it does not mention are zero, and what it says beyond the
fields is ignored. -/
def ofRow (row : Wire.Sentence) : (fields : List Field) → Except DecodeError (Cells fields)
  | [] => .ok .nil
  | f :: fields =>
    match readField row f with
    | .error e => .error e
    | .ok x =>
      match ofRow row fields with
      | .error e => .error e
      | .ok rest => .ok (.cons x rest)

/-- The records the rows describe, one for each; the first that cannot be read decides. -/
def ofRows (fields : List Field) : List Wire.Sentence → Except DecodeError (List (Cells fields))
  | [] => .ok []
  | row :: rows =>
    match ofRow row fields with
    | .error e => .error e
    | .ok r =>
      match ofRows fields rows with
      | .error e => .error e
      | .ok rest => .ok (r :: rest)

/-- The record of a reply that describes one object at most; all zero if it describes none. -/
def ofReply (reply : Wire.Reply) (fields : List Field) : Except DecodeError (Cells fields) :=
  match reply.rows with
  | [] => .ok (zero fields)
  | [row] => ofRow row fields
  | rows => .error (.ambiguous rows.length)

end Cells

end RouterMenu
