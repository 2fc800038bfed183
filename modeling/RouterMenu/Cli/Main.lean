import RouterMenu.Cli.Plan
import RouterMenu.Cli.Socket
import Std.Internal.UV.System

/-!
# The program

What is read from the operating system, and what is written to it. There is no terminal here that
could hide what is typed, so nobody is asked for a password and the keyring is left alone.
-/

namespace RouterMenu.Cli

/-- What comes of an action, or why it fails. -/
def attempted {α : Type} (action : IO α) : IO (Except String α) := do
  try return .ok (← action)
  catch e => return .error (errorText e)

/-- The disk of the machine the program runs on. What is no file is not there. -/
def thisDisk : Disk IO where
  read path := attempted do
    try return some (← IO.FS.readBinFile path).toList
    catch
      | .noFileOrDirectory .. | .inappropriateType .. => return none
      | e => throw e
  makeDirectory path := attempted (IO.FS.createDirAll path)
  write path text := attempted (IO.FS.writeFile path text)

/-- The host the program runs on. -/
def thisHost : IO Host := do
  let environment := (← Std.Internal.UV.System.osEnviron).toList
  let home := (environment.lookup "HOME").getD ""
  let directory := (← IO.currentDir).toString
  thisDisk.host { home, directory, environment }

/-- What an invocation is given to read. -/
def readInput : Option (Option String) → IO (Except String String)
  | none => return .ok ""
  | some (some path) => attempted (IO.FS.readFile path)
  | some none => do
    try
      let bytes ← (← IO.getStdin).readBinToEnd
      return (String.fromUTF8? bytes).elim (.error "stream did not contain valid UTF-8") .ok
    catch e => return .error (errorText e)

/-- Asks the user to confirm what cannot be undone, if somebody is there to be asked. What is asked
must be seen to be answered. -/
def ask (i : Invocation) : IO (Option (Except String Bool)) := do
  let stdin ← IO.getStdin
  let stderr ← IO.getStderr
  match i.action with
  | .menu command (.delete key) =>
    if i.options.yes || !(← stdin.isTty) then return none
    if !(← stderr.isTty) then return some (.error notTerminal)
    return some (← attempted do
      stderr.putStr (command.question key ++ " [y/N] ")
      let answer ← stdin.getLine
      return answer.trimAscii.toString.toLower == "y")
  | _ => return none

/-- What is shown of a failure. -/
def diagnostic (f : Failure) : String :=
  let code := (f.code?.map (· ++ "\n\n")).getD ""
  let cause := match f with
    | .connectionFailed _ source => "\n  cause: " ++ source
    | _ => ""
  let help := (f.help?.map ("\n  help: " ++ ·)).getD ""
  "Error: " ++ code ++ f.message ++ cause ++ help

/-- What is shown to those who ask how the program is used. -/
def usage : String :=
  let lines (words : List String) := String.join (words.map fun w => "  " ++ w ++ "\n")
  let options := globals.filterMap fun p => p.long?.map ("--" ++ ·)
  "Usage: tikly [OPTIONS] <COMMAND>\n\nCommands:\n" ++ lines commandNames ++ "\nOptions:\n" ++
    lines options

/-- The name and the number of the program. -/
def version : String := "tikly 0.1.0"

/-- Answers a command line that is not run. -/
def refuse (e : UsageError) : IO UInt32 := do
  match e with
  | .displayHelp => IO.print usage
  | .displayVersion => IO.println version
  | _ => IO.eprint usage
  return e.exitCode.toUInt32

/-- Writes out a report. -/
def deliver (r : Report) : IO UInt32 := do
  IO.print r.output
  match r.failure? with
  | some f =>
    IO.eprintln (diagnostic f)
    return f.exitCode.toUInt32
  | none =>
    IO.eprint r.remarks
    return 0

/-- Carries an invocation out. -/
def carryOut (h : Host) (i : Invocation) : IO Report := do
  let mut c : Console := { h with watched := ← (← IO.getStdout).isTty }
  if let .settings (.use name) := i.action then
    return reported (← (thisDisk.use i.options h name).run)
  -- that there is no device to be reached is known before anything is read or asked
  if let .ok _ := i.options.reachable h then
    c := { c with input := ← readInput i.action.source?, answer? := ← ask i }
  match i.plan c with
  | .report r => return r
  | .talk d t => converse (← IO.mkRef []) d {} t

/-- Runs a command line. -/
def runWords (words : List String) : IO UInt32 := do
  let h ← thisHost
  match Invocation.read h.environment words with
  | .error e => refuse e
  | .ok i => deliver (← carryOut h i)

end RouterMenu.Cli

/-- The program. -/
def main (words : List String) : IO UInt32 := RouterMenu.Cli.runWords words
