import RouterMenu.Client.Dialogue
import RouterMenu.Client.Error
import RouterMenu.Menu.Basic

/-!
# The five operations

Every menu is listed, searched, added to, changed and cleared in the same way. Nothing is sent
twice, and the first failure ends an operation. What was written is read back, so that the result
is the object as the device keeps it.
-/

namespace RouterMenu.Menu

open Wire (Command Reply)

/-- The outcome of an operation. -/
abbrev Outcome (α : Type) : Type := Except ClientError α

/-- What a reply says about the object with a key. An object whose key is empty is none. -/
def found (m : Menu) (key : String) (reply : Reply) : Outcome (Record m) :=
  match Cells.ofReply reply m.fields with
  | .error e => .error (.ofDecode e)
  | .ok r => if (m.keyOf r).isEmpty then .error (.notFound m.kind key) else .ok r

/-- The object with a key. -/
def find (m : Menu) (key : String) : Dialogue (Outcome (Record m)) :=
  .send ((Command.mk (m.verb "print") []).query m.key key) fun
    | .error e => .done (.error (.ofGateway e))
    | .ok reply => .done (m.found key reply)

/-- A missing object as no object. -/
def absentAsNone {α : Type} : Outcome α → Outcome (Option α)
  | .ok r => .ok (some r)
  | .error e => if e.isNotFound then .ok none else .error e

/-- The object with a key, if there is one. -/
def get (m : Menu) (key : String) : Dialogue (Outcome (Option (Record m))) :=
  (m.find key).map absentAsNone

/-- Every object, in the order of the device. -/
def list (m : Menu) : Dialogue (Outcome (List (Record m))) :=
  .send ⟨m.verb "print", []⟩ fun
    | .error e => .done (.error (.ofGateway e))
    | .ok reply =>
      match Cells.ofRows m.fields reply.rows with
      | .error e => .done (.error (.ofDecode e))
      | .ok records => .done (.ok records)

/-- The key of a new object: its id, which the device assigns, or the name it was given. -/
def newKey? (m : Menu) (r : Record m) (reply : Reply) : Option String :=
  if m.key = idWire then reply.ret? else some (m.keyOf r)

/-- Creates an object. -/
def add (m : Menu) (r : Record m) : Dialogue (Outcome (Record m)) :=
  .send (r.marshal (m.verb "add")) fun
    | .error e => .done (.error (.ofGateway e))
    | .ok reply =>
      match m.newKey? r reply with
      | none => .done (.error (.internal ("device assigned no id to the new " ++ m.kind)))
      | some key => m.find key

/-- How the word that names the id of an object begins. -/
def idStart : String := "=.id="

/-- Whether a word names the id of an object. -/
def namesId (word : String) : Bool := idStart.toList.isPrefixOf word.toList

/-- The command that changes an object. An object known by its name is selected by it, unless its
id is at hand. -/
def setCommand (m : Menu) (r : Record m) : Command :=
  let command := r.marshal (m.verb "set")
  if m.key ≠ idWire ∧ ¬ command.words.any namesId then command.numbers (m.keyOf r)
  else command

/-- Changes an object to what a record says: every flag, and everything else that is set. -/
def update (m : Menu) (r : Record m) : Dialogue (Outcome (Record m)) :=
  if (m.keyOf r).isEmpty then
    .done (.error (.validationFailed (m.kind ++ " update needs \x60" ++ m.key ++ "\x60")))
  else
    .send (m.setCommand r) fun
      | .error e => .done (.error (.ofGateway e))
      | .ok _ => m.find (m.keyOf r)

/-- Removes the object with a key. -/
def delete (m : Menu) (key : String) : Dialogue (Outcome Unit) :=
  .send ((Command.mk (m.verb "remove") []).numbers key) fun
    | .error e => .done (.error (.ofGateway e))
    | .ok _ => .done (.ok ())

end RouterMenu.Menu
