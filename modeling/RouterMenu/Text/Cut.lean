/-!
# Cutting text at a character

The two sides of the first or the last occurrence of a character, and all the pieces between its
occurrences. The character itself belongs to no piece.
-/

namespace RouterMenu.Text

/-- The text before the first `c` and the text after it. -/
def cut (c : Char) : List Char → Option (List Char × List Char)
  | [] => none
  | x :: rest =>
    if x = c then some ([], rest)
    else (cut c rest).map fun (before, after) => (x :: before, after)

/-- The text before the last `c` and the text after it. -/
def cutLast (c : Char) (s : List Char) : Option (List Char × List Char) :=
  (cut c s.reverse).map fun (after, before) => (before.reverse, after.reverse)

/-- The pieces between the occurrences of `c`; one more than there are occurrences. -/
def pieces (c : Char) : List Char → List (List Char)
  | [] => [[]]
  | x :: rest =>
    if x = c then [] :: pieces c rest
    else match pieces c rest with
      | [] => [[x]]
      | piece :: more => (x :: piece) :: more

/-- A letter of the ASCII alphabet in lower case, and any other character as it is. -/
def lower (c : Char) : Char := if 'A' ≤ c ∧ c ≤ 'Z' then Char.ofNat (c.toNat + 32) else c

/-- A letter of the ASCII alphabet in upper case, and any other character as it is. -/
def upper (c : Char) : Char := if 'a' ≤ c ∧ c ≤ 'z' then Char.ofNat (c.toNat - 32) else c

/-- Equal but for the case of ASCII letters. -/
def sameLetters (s t : String) : Bool := s.toList.map lower == t.toList.map lower

end RouterMenu.Text
