import RouterMenu.Cli.Failure
import RouterMenu.Cli.Invocation
import RouterMenu.Settings.Host

/-!
# Where a command is run

A command sees its host, what it is given to read, and whether somebody is there to look at its
output and to answer questions. How a question is put to a terminal, and where a keyring keeps what
it is given, is left to the host: only what comes of it is seen here.
-/

namespace RouterMenu.Cli

/-- What is said where a question is put to what is no terminal. -/
def notTerminal : String := "IO error: not a terminal"

/-- What can go wrong with a keyring. -/
inductive KeyringFault where
  /-- No entry of it can be had. -/
  | access (reason : String)
  /-- The entry does not take in what it is given. -/
  | store (reason : String)

/-- A host with what a command is given there. -/
structure Console extends Host where
  /-- What the file holds that the command line names, or else what comes in; or why it cannot be
  read. -/
  input : Except String String := .ok ""
  /-- What is answered when the user is asked to confirm, or why asking fails; nothing if nobody can
  be asked. -/
  answer? : Option (Except String Bool) := none
  /-- What is typed when the user is asked for a password, or why asking fails. -/
  password : Except String String := .error notTerminal
  /-- What is wrong with the keyring of the user, if anything is. -/
  keyring? : Option KeyringFault := none
  /-- Somebody looks at the output. -/
  watched : Bool := false

/-- What a command leaves behind. -/
structure Report where
  output : String := ""
  /-- What is said apart from the output. -/
  remarks : String := ""
  /-- The new text of the file of settings. -/
  saved? : Option String := none
  /-- An entry of the keyring, with the secret that was put there. -/
  kept? : Option (String × String) := none
  failure? : Option Failure := none

namespace Report

/-- A command that came to nothing. -/
def failed (f : Failure) : Report := { failure? := some f }

/-- A command that has something to show. Nothing is shown if there is nothing to show or nobody
wants to see it. -/
def «show» (o : Options) (text : String) : Report :=
  if o.quiet || text.isEmpty then {} else { output := text ++ "\n" }

/-- A command that has something to say about what it did. -/
def remark (o : Options) (text : String) : Report :=
  if o.quiet then {} else { remarks := text ++ "\n" }

@[simp] theorem failure?_show (o : Options) (text : String) :
    (Report.show o text).failure? = none := by
  simp only [Report.show]
  split <;> rfl

@[simp] theorem kept?_show (o : Options) (text : String) : (Report.show o text).kept? = none := by
  simp only [Report.show]
  split <;> rfl

@[simp] theorem failure?_remark (o : Options) (text : String) :
    (Report.remark o text).failure? = none := by
  simp only [Report.remark]
  split <;> rfl

@[simp] theorem kept?_remark (o : Options) (text : String) :
    (Report.remark o text).kept? = none := by
  simp only [Report.remark]
  split <;> rfl

/-- The exit code of the process. -/
def exitCode (r : Report) : Nat :=
  match r.failure? with
  | some f => f.exitCode
  | none => 0

end Report

/-- Whether the output is colored. -/
def Console.isColored (c : Console) : ColorMode → Bool
  | .always => true
  | .never => false
  | .auto => c.watched && (c.env? "NO_COLOR").isNone

/-- What a command line gives to read, if anything: a file by its path, or else the standard
input. -/
def Action.source? : Action → Option (Option String)
  | .menu _ (.add file?) | .menu _ (.update file?) => some file?
  | _ => none

end RouterMenu.Cli
