import RouterMenu.Json.Skip
import RouterMenu.Menu.Basic

/-!
# Reading records from JSON

A record is a map from field names to values, or a list of values in the order of the fields.
Fields that are not mentioned are zero and unknown ones are passed over, but a field may not be
mentioned twice, and a value must be of the type of its field and in its range.
-/

namespace RouterMenu

/-- What a message calls the values of a type. -/
def FieldType.wanted : FieldType → String
  | .text => "a string"
  | .flag => "a boolean"
  | .int t | .duration t => t.name

namespace Json.Cursor

/-- The fault of a value of the wrong type. A scalar is read, and may itself be malformed. -/
def unexpected (c : Cursor) (wanted : String) : Fault :=
  let scalar (found : Found) (r : Except Fault Cursor) : Fault :=
    match r with
    | .ok c => c.fault (.wrongType found wanted)
    | .error e => e
  let number (r : Except Fault (Number × Cursor)) : Fault :=
    match r with
    | .ok (n, c) => c.fault (.wrongType n.found wanted)
    | .error e => e
  match c.rest with
  | 'n' :: _ => scalar .null (c.next.ident "ull".toList)
  | 't' :: _ => scalar (.flag true) (c.next.ident "rue".toList)
  | 'f' :: _ => scalar (.flag false) (c.next.ident "alse".toList)
  | '-' :: _ => number (c.next.number false)
  | '"' :: _ =>
    match c.next.text with
    | .ok (s, c) => c.fault (.wrongType (.text s) wanted)
    | .error e => e
  | '[' :: _ => c.fault (.wrongType .list wanted)
  | '\x7b' :: _ => c.fault (.wrongType .map wanted)
  | x :: _ => if Text.isDigit x then number (c.number true) else c.faultAhead .wantsValue
  | [] => c.faultAhead .wantsValue

/-- A number as a whole number of the range `t`. -/
def narrow (c : Cursor) (t : IntType) : Number → Except Fault (Whole t × Cursor)
  | .nat n => whole n
  | .negative n => whole n
  | .float x => .error (c.fault (.wrongType (.float x) t.name))
where
  /-- A whole number, if it lies in the range. -/
  whole (n : Int) : Except Fault (Whole t × Cursor) :=
    match Whole.ofInt? n with
    | some n => .ok (n, c)
    | none => .error (c.fault (.wrongValue (.int n) t.name))

/-- Reads a whole number of the range `t`. -/
def wholeNumberOf (c : Cursor) (t : IntType) : Except Fault (Whole t × Cursor) :=
  match c.rest with
  | '-' :: _ => do
    let (n, c) ← c.next.number false
    c.narrow t n
  | x :: _ =>
    if Text.isDigit x then do
      let (n, c) ← c.number true
      c.narrow t n
    else .error (c.unexpected t.name)
  | [] => .error (c.unexpected t.name)

/-- Reads the value of a field at the place where it begins. -/
def valueOf (c : Cursor) : (t : FieldType) → Except Fault (t.Carrier × Cursor)
  | .text =>
    match c.rest with
    | '"' :: _ => c.next.text
    | _ => .error (c.unexpected FieldType.text.wanted)
  | .flag =>
    match c.rest with
    | 't' :: _ => (c.next.ident "rue".toList).map fun c => (true, c)
    | 'f' :: _ => (c.next.ident "alse".toList).map fun c => (false, c)
    | _ => .error (c.unexpected FieldType.flag.wanted)
  | .int t => c.wholeNumberOf t
  | .duration t => c.wholeNumberOf t

/-- Reads the value of a field behind white space. -/
def fieldValue (c : Cursor) (t : FieldType) : Except Fault (t.Carrier × Cursor) :=
  let c := c.skipSpace
  match c.rest with
  | [] => .error (c.fault .endInValue)
  | _ => c.valueOf t

/-- Reads the value of the field of the given name into a record; `none` if no field has it. -/
def into (c : Cursor) (name : String) :
    {fields : List Field} → Cells fields → Option (Except Fault (Cells fields × Cursor))
  | [], .nil => none
  | f :: _, .cons x rest =>
    if f.name = name then
      some ((c.fieldValue f.type).map fun (x, c) => (.cons x rest, c))
    else
      (into c name rest).map fun r => r.map fun (rest, c) => (.cons x rest, c)

/-- Reads the colon of an entry. -/
def colon (c : Cursor) : Except Fault Cursor :=
  let c := c.skipSpace
  match c.rest with
  | [] => .error (c.fault .endInMap)
  | ':' :: _ => .ok c.next
  | _ => .error (c.faultAhead .wantsColon)

/-- Goes to the next key of a map, or behind the end of the map. -/
def key (c : Cursor) (first : Bool) : Except Fault (Option String × Cursor) :=
  let c := c.skipSpace
  let quoted (c : Cursor) : Except Fault (Option String × Cursor) :=
    (c.next.text).map fun (s, c) => (some s, c)
  match c.rest with
  | [] => .error (c.fault .endInMap)
  | '\x7d' :: _ => .ok (none, c.next)
  | '"' :: _ => if first then quoted c else .error (c.faultAhead .wantsMapComma)
  | ',' :: _ =>
    if first then .error (c.faultAhead .keyNotText)
    else
      let c := c.next.skipSpace
      match c.rest with
      | [] => .error (c.fault .endInValue)
      | '"' :: _ => quoted c
      | '\x7d' :: _ => .error (c.faultAhead .trailingComma)
      | _ => .error (c.faultAhead .keyNotText)
  | _ => .error (c.faultAhead (if first then .keyNotText else .wantsMapComma))

/-- Where a repeated field is reported: behind the white space after its name. -/
def repeatedAt (c : Cursor) : Cursor :=
  let c := c.skipSpace
  match c.rest with
  | '\x7d' :: _ => c.next
  | _ => c

/-- Reads the entries of a map into a record of which the fields in `seen` were mentioned. -/
def entries {fields : List Field} (c : Cursor) (seen : List String) (r : Cells fields) :
    Nat → Except Fault (Cells fields × Cursor)
  | 0 => .error (c.fault .endInMap)
  | fuel + 1 => do
    match ← c.key seen.isEmpty with
    | (none, c) => .ok (r, c)
    | (some name, c) =>
      if fields.any fun f => f.name == name then
        if seen.contains name then .error (c.repeatedAt.fault (.repeated name))
        else
          let behind ← c.colon
          match into behind name r with
          | some found =>
            let (r, c) ← found
            entries c (name :: seen) r fuel
          | none => .ok (r, behind)
      else
        let behind ← c.colon
        let c ← behind.skipValue
        -- any text that is no field's name marks the map as begun
        entries c (name :: seen) r fuel

/-- Whether a list goes on: the cursor at its next value, or `none` at its end. -/
def item (c : Cursor) (first : Bool) : Except Fault (Option Cursor) :=
  let c := c.skipSpace
  match c.rest with
  | [] => .error (c.fault .endInList)
  | ']' :: _ => .ok none
  | ',' :: _ =>
    if first then .ok (some c)
    else
      let c := c.next.skipSpace
      match c.rest with
      | [] => .error (c.fault .endInValue)
      | ']' :: _ => .error (c.faultAhead .trailingComma)
      | _ => .ok (some c)
  | _ => if first then .ok (some c) else .error (c.faultAhead .wantsListComma)

/-- Reads the fields in order from a list, as far as it goes. -/
def items (c : Cursor) (first : Bool) :
    (fields : List Field) → Except Fault (Cells fields × Cursor)
  | [] => .ok (.nil, c)
  | f :: fields => do
    match ← c.item first with
    | none => .ok (Cells.zero (f :: fields), c)
    | some c =>
      let (x, c) ← c.fieldValue f.type
      let (rest, c) ← items c false fields
      .ok (.cons x rest, c)

/-- Reads the end of a list that holds no more than there are fields. -/
def endOfItems (c : Cursor) : Except Fault Cursor :=
  let c := c.skipSpace
  match c.rest with
  | [] => .error (c.fault .endInList)
  | ']' :: _ => .ok c.next
  | ',' :: _ =>
    let c := c.next.skipSpace
    match c.rest with
    | ']' :: _ => .error (c.faultAhead .trailingComma)
    | _ => .error (c.faultAhead .trailingText)
  | _ => .error (c.faultAhead .trailingText)

/-- Reads a record. -/
def record (c : Cursor) (title : String) (fields : List Field) :
    Except Fault (Cells fields × Cursor) :=
  let c := c.skipSpace
  match c.rest with
  | [] => .error (c.fault .endInValue)
  | '[' :: _ => do
    let (r, c) ← c.next.items true fields
    let c ← c.endOfItems
    .ok (r, c)
  | '\x7b' :: _ => c.next.entries [] (Cells.zero fields) (c.rest.length + 1)
  | _ => .error (c.unexpected ("struct " ++ title))

end Json.Cursor

/-- The record a JSON text describes. -/
def Menu.ofJson (m : Menu) (s : String) : Except Json.Fault (Record m) := do
  let (r, c) ← Json.Cursor.record ⟨s.toList, 1, 0⟩ m.title m.fields
  let c := c.skipSpace
  match c.rest with
  | [] => .ok r
  | _ => .error (c.faultAhead .trailingText)

end RouterMenu
