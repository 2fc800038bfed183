import RouterMenu.Json.Text
import RouterMenu.Json.Number

/-!
# Passing over JSON values

The value of an unknown field must be JSON, but is not kept. However deep it is nested, only the
list of the brackets that are still open is remembered.
-/

namespace RouterMenu.Json

/-- An open bracket. -/
inductive Bracket where
  | list
  | map

/-- What is expected next inside the open brackets. -/
inductive Expecting where
  /-- A value. -/
  | value
  /-- What may follow an opening bracket. -/
  | first
  /-- What may follow a value. -/
  | more

namespace Bracket

/-- The character that closes it. -/
def closing : Bracket → Char
  | .list => ']'
  | .map => '\x7d'

/-- The fault of text that ends inside it. -/
def unfinished : Bracket → Cause
  | .list => .endInList
  | .map => .endInMap

/-- The fault of values that no comma separates. -/
def wantsComma : Bracket → Cause
  | .list => .wantsListComma
  | .map => .wantsMapComma

end Bracket

namespace Cursor

/-- Passes over the key and the colon of an entry. -/
def skipKey (c : Cursor) : Except Fault Cursor := do
  let c := c.skipSpace
  match c.rest with
  | [] => .error (c.fault .endInMap)
  | '"' :: _ =>
    let c ← c.next.skipText
    let c := c.skipSpace
    match c.rest with
    | [] => .error (c.fault .endInMap)
    | ':' :: _ => .ok c.next
    | _ => .error (c.faultAhead .wantsColon)
  | _ => .error (c.faultAhead .keyNotText)

/-- Passes over a scalar; an opening bracket is passed over and returned. -/
def skipScalar (c : Cursor) : Except Fault (Option Bracket × Cursor) :=
  let closed (r : Except Fault Cursor) : Except Fault (Option Bracket × Cursor) :=
    r.map fun c => (none, c)
  match c.rest with
  | [] => .error (c.fault .endInValue)
  | 'n' :: _ => closed (c.next.ident "ull".toList)
  | 't' :: _ => closed (c.next.ident "rue".toList)
  | 'f' :: _ => closed (c.next.ident "alse".toList)
  | '-' :: _ => closed c.next.skipNumber
  | '"' :: _ => closed c.next.skipText
  | '[' :: _ => .ok (some .list, c.next)
  | '\x7b' :: _ => .ok (some .map, c.next)
  | x :: _ =>
    if Text.isDigit x then closed c.skipNumber else .error (c.faultAhead .wantsValue)

/-- Passes over what is left inside the open brackets, innermost first. -/
def skipOpen (c : Cursor) : List Bracket → Expecting → Nat → Except Fault Cursor
  | _, _, 0 => .error (c.fault .endInValue)
  | [], .first, _ | [], .more, _ => .ok c
  | stack, .value, fuel + 1 => do
    let (opened, c) ← c.skipSpace.skipScalar
    match opened with
    | some bracket => c.skipOpen (bracket :: stack) .first fuel
    | none => c.skipOpen stack .more fuel
  | bracket :: stack, expecting, fuel + 1 =>
    let c := c.skipSpace
    match c.rest with
    | [] => .error (c.fault bracket.unfinished)
    | x :: _ =>
      if x = bracket.closing then c.next.skipOpen stack .more fuel
      else
        match expecting, x with
        | .more, ',' => enter c.next bracket stack fuel
        | .more, _ => .error (c.faultAhead bracket.wantsComma)
        | _, _ => enter c bracket stack fuel
where
  /-- Goes on to the next value, past its key in a map. -/
  enter (c : Cursor) (bracket : Bracket) (stack : List Bracket) (fuel : Nat) :
      Except Fault Cursor :=
    match bracket with
    | .list => c.skipOpen (bracket :: stack) .value fuel
    | .map => do
      let c ← c.skipKey
      c.skipOpen (bracket :: stack) .value fuel

/-- Passes over a value. -/
def skipValue (c : Cursor) : Except Fault Cursor :=
  c.skipOpen [] .value (2 * c.rest.length + 2)

end Cursor

end RouterMenu.Json
