import RouterMenu.Json.Cursor

/-!
# Reading JSON strings

A string runs to the next quote that no backslash precedes. Characters beyond the first 65536
are written as two escapes, of which neither may stand alone.
-/

namespace RouterMenu.Json

namespace Cursor

/-- The cursor `n` bytes further on, if that many are left. -/
def skipBytes : Nat → Cursor → List Char → Option Cursor
  | 0, c, _ => some c
  | _ + 1, _, [] => none
  | n + 1, c, x :: rest =>
    if x.utf8Size ≤ n + 1 then skipBytes (n + 1 - x.utf8Size) (c.past x rest) rest
    else some ⟨rest, c.line, c.column + (n + 1)⟩
termination_by n _ _ => n
decreasing_by
  have := Char.utf8Size_pos x
  omega

/-- The cursor behind everything. -/
def atEnd (c : Cursor) : Cursor := c.rest.foldl (fun c x => c.past x []) c

/-- The value of a hexadecimal digit. -/
def hexDigit? (x : Char) : Option Nat :=
  if '0' ≤ x ∧ x ≤ '9' then some (x.toNat - '0'.toNat)
  else if 'a' ≤ x ∧ x ≤ 'f' then some (x.toNat - 'a'.toNat + 10)
  else if 'A' ≤ x ∧ x ≤ 'F' then some (x.toNat - 'A'.toNat + 10)
  else none

/-- The number four hexadecimal digits stand for, most significant first. -/
def fourDigits? (w x y z : Char) : Option Nat := do
  let w ← hexDigit? w
  let x ← hexDigit? x
  let y ← hexDigit? y
  let z ← hexDigit? z
  some (((w * 16 + x) * 16 + y) * 16 + z)

/-- Where reading four hexadecimal digits fails: behind four bytes, or at the end. -/
def hexFault (c : Cursor) : Fault :=
  match skipBytes 4 c c.rest with
  | some behind => behind.fault .badEscape
  | none => c.atEnd.fault .endInText

/-- Reads four hexadecimal digits. -/
def hexEscape (c : Cursor) : Except Fault (Nat × Cursor) :=
  match c.rest with
  | w :: x :: y :: z :: rest =>
    match fourDigits? w x y z with
    | some n => .ok (n, ⟨rest, c.line, c.column + 4⟩)
    | none => .error c.hexFault
  | _ => .error c.hexFault

/-- Reads the digits of an escape, and a second escape if the first is half a character. -/
def unicodeEscape (c : Cursor) : Except Fault (Char × Cursor) := do
  let (n, c) ← c.hexEscape
  if 0xDC00 ≤ n ∧ n ≤ 0xDFFF then .error (c.fault .loneSurrogate)
  else if n < 0xD800 ∨ 0xDBFF < n then .ok (Char.ofNat n, c)
  else match c.rest with
    | [] => .error (c.fault .endInText)
    | '\\' :: rest =>
      let c := c.past '\\' rest
      match c.rest with
      | [] => .error (c.fault .endInText)
      | 'u' :: rest =>
        let (low, c) ← (c.past 'u' rest).hexEscape
        if low < 0xDC00 ∨ 0xDFFF < low then .error (c.fault .loneSurrogate)
        else .ok (Char.ofNat ((n - 0xD800) * 0x400 + (low - 0xDC00) + 0x10000), c)
      | _ => .error (c.faultAhead .halfEscape)
    | _ => .error (c.faultAhead .halfEscape)

/-- Reads what follows a backslash. -/
def escape (c : Cursor) : Except Fault (Char × Cursor) :=
  match c.rest with
  | [] => .error (c.fault .endInText)
  | x :: rest =>
    let behind := c.past x rest
    match x with
    | '"' | '\\' | '/' => .ok (x, behind)
    | 'b' => .ok ('\x08', behind)
    | 'f' => .ok ('\x0c', behind)
    | 'n' => .ok ('\n', behind)
    | 'r' => .ok ('\r', behind)
    | 't' => .ok ('\t', behind)
    | 'u' => behind.unicodeEscape
    | _ => .error (c.faultAhead .badEscape)

/-- Reads characters up to the closing quote, after those in `acc`, latest first. -/
def textFrom (acc : List Char) (c : Cursor) : Nat → Except Fault (String × Cursor)
  | 0 => .error (c.fault .endInText)
  | fuel + 1 =>
    match c.rest with
    | [] => .error (c.fault .endInText)
    | '"' :: rest => .ok (String.ofList acc.reverse, c.past '"' rest)
    | '\\' :: rest => do
      let (x, c) ← (c.past '\\' rest).escape
      textFrom (x :: acc) c fuel
    | x :: rest =>
      if x < ' ' then .error (c.faultAhead .control)
      else textFrom (x :: acc) (c.past x rest) fuel

/-- Reads a string of which the opening quote has been read. -/
def text (c : Cursor) : Except Fault (String × Cursor) := textFrom [] c (c.rest.length + 1)

/-- Passes over what follows a backslash; whether it makes sense does not matter. -/
def skipEscape (c : Cursor) : Except Fault Cursor :=
  match c.rest with
  | [] => .error (c.fault .endInText)
  | x :: rest =>
    let behind := c.past x rest
    if ['"', '\\', '/', 'b', 'f', 'n', 'r', 't'].contains x then .ok behind
    else if x = 'u' then do
      let (_, c) ← behind.hexEscape
      .ok c
    else .error (c.faultAhead .badEscape)

/-- Passes over characters up to the closing quote. -/
def skipTextFrom (c : Cursor) : Nat → Except Fault Cursor
  | 0 => .error (c.fault .endInText)
  | fuel + 1 =>
    match c.rest with
    | [] => .error (c.fault .endInText)
    | '"' :: rest => .ok (c.past '"' rest)
    | '\\' :: rest => do
      let c ← (c.past '\\' rest).skipEscape
      skipTextFrom c fuel
    | x :: rest =>
      if x < ' ' then .error (c.fault .control) else skipTextFrom (c.past x rest) fuel

/-- Passes over a string of which the opening quote has been read. -/
def skipText (c : Cursor) : Except Fault Cursor := c.skipTextFrom (c.rest.length + 1)

end Cursor

end RouterMenu.Json
