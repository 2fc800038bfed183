import RouterMenu.Text.Cut

/-!
# Commands

A command is a menu path with its verb, followed by attributes and queries. On the wire each is
a word of its own. The printed form hides the value of every word that begins like a password
attribute, whatever put it there.
-/

namespace RouterMenu.Wire

/-- What a command says besides its path. -/
inductive Clause where
  /-- Sets `name` to `value`. -/
  | attr (name value : String)
  /-- Asks for the objects whose `name` is `value`. -/
  | query (name value : String)
deriving DecidableEq, Repr

/-- The word that carries a clause. -/
def Clause.word : Clause → String
  | .attr name value => "=" ++ name ++ "=" ++ value
  | .query name value => "?" ++ name ++ "=" ++ value

/-- A command to a device. -/
structure Command where
  /-- The menu path with its verb, such as `/ip/address/print`. -/
  path : String
  clauses : List Clause := []
deriving DecidableEq, Repr

namespace Command

/-- Adds an attribute at the end. -/
def attr (c : Command) (name value : String) : Command :=
  { c with clauses := c.clauses ++ [.attr name value] }

/-- Adds a query at the end. -/
def query (c : Command) (name value : String) : Command :=
  { c with clauses := c.clauses ++ [.query name value] }

/-- Selects the object a command is about. -/
def numbers (c : Command) (id : String) : Command := c.attr "numbers" id

/-- The words in order, the path first. -/
def words (c : Command) : List String := c.path :: c.clauses.map Clause.word

/-- How a word that carries a password begins. -/
def secretStart : String := "=password="

/-- A word as it may be shown. -/
def maskedWord (word : String) : String :=
  if secretStart.toList.isPrefixOf word.toList then secretStart ++ "***" else word

/-- The words joined by spaces, without any password. -/
def display (c : Command) : String := " ".intercalate (c.words.map maskedWord)

end Command

end RouterMenu.Wire
