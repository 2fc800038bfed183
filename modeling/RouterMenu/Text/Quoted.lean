import RouterMenu.Text.Unprintable
import RouterMenu.Text.Combining
import RouterMenu.Text.Numeral

/-!
# Quoted text

How an error message shows text it was given: between double quotes, so that its ends can be
seen, and with a number in place of every character that would not show by itself.
-/

namespace RouterMenu.Text

/-- A character inside quotes. -/
def quoteChar (c : Char) : List Char :=
  match c with
  | '"' => ['\\', '"']
  | '\\' => ['\\', '\\']
  | '\n' => ['\\', 'n']
  | '\t' => ['\\', 't']
  | '\r' => ['\\', 'r']
  | '\x00' => ['\\', '0']
  | _ =>
    if ' ' ≤ c ∧ c ≤ '~' then [c]
    else if combining.contains c || unprintable.contains c then
      '\\' :: 'u' :: '\x7b' :: hex c.toNat ++ ['\x7d']
    else [c]

/-- Text between double quotes. -/
def quoted (s : String) : String :=
  String.ofList ('"' :: s.toList.flatMap quoteChar ++ ['"'])

end RouterMenu.Text
