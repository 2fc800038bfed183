import RouterMenu.Text.Numeral

/-!
# Scalars

What a field can hold: text, a flag, or a whole number of a fixed range. The range belongs to
the type of the number, so a number that is there always fits; one that does not fit a field is
narrowed to zero on its way in.
-/

namespace RouterMenu

/-- The ranges of whole numbers, named for their width in bits and whether they are signed. -/
inductive IntType where
  | u8 | u16 | u32 | u64
  | i8 | i16 | i32 | i64
deriving DecidableEq, Repr

namespace IntType

/-- The least number of the range. -/
def lo : IntType → Int
  | .u8 | .u16 | .u32 | .u64 => 0
  | .i8 => -0x80
  | .i16 => -0x8000
  | .i32 => -0x80000000
  | .i64 => -0x8000000000000000

/-- The greatest number of the range. -/
def hi : IntType → Int
  | .u8 => 0xFF
  | .u16 => 0xFFFF
  | .u32 => 0xFFFFFFFF
  | .u64 => 0xFFFFFFFFFFFFFFFF
  | .i8 => 0x7F
  | .i16 => 0x7FFF
  | .i32 => 0x7FFFFFFF
  | .i64 => 0x7FFFFFFFFFFFFFFF

/-- How the range is named to a reader. -/
def name : IntType → String
  | .u8 => "u8"
  | .u16 => "u16"
  | .u32 => "u32"
  | .u64 => "u64"
  | .i8 => "i8"
  | .i16 => "i16"
  | .i32 => "i32"
  | .i64 => "i64"

theorem lo_nonpos (t : IntType) : t.lo ≤ 0 := by cases t <;> decide

theorem hi_nonneg (t : IntType) : 0 ≤ t.hi := by cases t <;> decide

/-- Whether a number lies in the range. -/
def fits (t : IntType) (n : Int) : Bool := t.lo ≤ n && n ≤ t.hi

end IntType

/-- A whole number of the range `t`. -/
structure Whole (t : IntType) where
  val : Int
  lo_le : t.lo ≤ val
  le_hi : val ≤ t.hi
deriving DecidableEq

namespace Whole

variable {t : IntType}

/-- Zero lies in every range. -/
def zero : Whole t := ⟨0, t.lo_nonpos, t.hi_nonneg⟩

/-- The number, if it lies in the range. -/
def ofInt? (n : Int) : Option (Whole t) :=
  if h : t.lo ≤ n ∧ n ≤ t.hi then some ⟨n, h.1, h.2⟩ else none

/-- The number, or zero if it lies outside the range. -/
def narrow (n : Int) : Whole t := (ofInt? n).getD zero

end Whole

/-- A scalar on its way between a field and the wire. -/
inductive Value where
  | text (s : String)
  | flag (b : Bool)
  | int (n : Whole .i64)
deriving DecidableEq

namespace Value

/-- Whether this is the zero of its kind: no text, false, or the number zero. -/
def isZero : Value → Bool
  | .text s => s.isEmpty
  | .flag b => !b
  | .int n => n.val == 0

/-- The text on the wire. -/
def encode : Value → String
  | .text s => s
  | .flag b => if b then "yes" else "no"
  | .int n => String.ofList (Text.ofInt n.val)

/-- Whether this is a flag, which is shown and sent even when it is false. -/
def isFlag : Value → Bool
  | .flag _ => true
  | _ => false

end Value

end RouterMenu
