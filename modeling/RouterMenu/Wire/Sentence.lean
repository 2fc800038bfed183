import RouterMenu.Text.Cut

/-!
# Sentences as maps

The attributes of a sentence form a map in the order of first mention: a key that comes again
changes the value it had and keeps its place, so no key is listed twice.
-/

namespace RouterMenu.Wire

/-- Keys and values in the order in which the keys were first mentioned. -/
structure Sentence where
  pairs : List (String × String) := []
deriving DecidableEq, Repr

namespace Sentence

/-- The value of a key. -/
def get? (s : Sentence) (key : String) : Option String :=
  (s.pairs.find? fun pair => pair.1 == key).map Prod.snd

/-- Sets the value of a key in a list of pairs, at its place if it has one. -/
def put (key value : String) : List (String × String) → List (String × String)
  | [] => [(key, value)]
  | pair :: rest =>
    if pair.1 = key then (key, value) :: rest else pair :: put key value rest

/-- Sets the value of a key. -/
def insert (s : Sentence) (key value : String) : Sentence := ⟨put key value s.pairs⟩

/-- The pairs inserted one after another. -/
def ofList (pairs : List (String × String)) : Sentence :=
  pairs.foldl (fun s pair => s.insert pair.1 pair.2) {}

/-- The key and the value in an attribute word: they stand on the two sides of its second
equals sign, and a word without one sets its key to nothing. -/
def attribute? (word : String) : Option (String × String) :=
  match word.toList with
  | '=' :: rest =>
    match Text.cut '=' rest with
    | some (key, value) => some (String.ofList key, String.ofList value)
    | none => some (String.ofList rest, "")
  | _ => none

/-- The attributes among the words; all other words are skipped. -/
def ofWords (words : List String) : Sentence := ofList (words.filterMap attribute?)

/-- The number of keys. -/
def size (s : Sentence) : Nat := s.pairs.length

/-- Whether there is no key. -/
def isEmpty (s : Sentence) : Bool := s.pairs.isEmpty

end Sentence

/-- The whole answer to a command. -/
structure Reply where
  /-- One sentence for each object, in the order in which they arrived. -/
  rows : List Sentence := []
  /-- What came with the end of the answer. -/
  done : Sentence := {}
deriving DecidableEq, Repr

/-- The value a command returns beside its rows, such as the id of a new object. -/
def Reply.ret? (r : Reply) : Option String := r.done.get? "ret"

end RouterMenu.Wire
