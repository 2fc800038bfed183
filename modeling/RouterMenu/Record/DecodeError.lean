import RouterMenu.Text.Quoted

/-!
# Why a reply is no record
-/

namespace RouterMenu

/-- The causes. Reading a scalar is permissive, so the only text that can be wrong is the day
count of a duration. -/
inductive DecodeError where
  /-- One object was asked for and `rows` of them came. -/
  | ambiguous (rows : Nat)
  /-- A duration whose count of days is no number, or too large. -/
  | dayCount (text : String)
  /-- The cause, tagged with the wire name of the field it came from. -/
  | field (wire : String) (source : DecodeError)
deriving DecidableEq, Repr

/-- What is reported about it. -/
def DecodeError.message : DecodeError → String
  | .ambiguous rows =>
    "ambiguous reply: expected at most one row, got " ++ String.ofList (Text.ofNat rows)
  | .dayCount text => "malformed day count in duration " ++ Text.quoted text
  | .field wire source => "failed to decode \x60" ++ wire ++ "\x60: " ++ source.message

end RouterMenu
