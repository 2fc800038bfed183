import RouterMenu.Render.Output
import RouterMenu.Text.Numeral

/-!
# Parameters of commands

A parameter is given by a flag, by an option with a value, or by its place among the words of the
command line. Its kind says what values it takes.
-/

namespace RouterMenu

/-- When output is colored. -/
inductive ColorMode where
  /-- If somebody looks at it. -/
  | auto
  | always
  | never
deriving DecidableEq, Repr

/-- The shells that can complete commands. -/
inductive Shell where
  | bash | elvish | fish | powershell | zsh
deriving DecidableEq, Repr

namespace Cli

/-- The formats by their names. -/
def formats : List (String × OutputFormat) :=
  [("table", .table), ("json", .json), ("json-compact", .jsonCompact), ("yaml", .yaml),
    ("plain", .plain)]

/-- The modes of color by their names. -/
def colors : List (String × ColorMode) :=
  [("auto", .auto), ("always", .always), ("never", .never)]

/-- The shells by their names. -/
def shells : List (String × Shell) :=
  [("bash", .bash), ("elvish", .elvish), ("fish", .fish), ("powershell", .powershell),
    ("zsh", .zsh)]

/-- Why a command line is not run. -/
inductive UsageError where
  /-- Help was asked for. -/
  | displayHelp
  | displayVersion
  /-- Nothing was asked for, so that help is due. -/
  | displayHelpOnMissing
  | unknownArgument
  | invalidSubcommand
  | missingSubcommand
  | missingRequiredArgument
  /-- A parameter was given twice. -/
  | argumentConflict
  /-- A flag was given a value. -/
  | tooManyValues
  /-- A value is missing, or none of those there are. -/
  | invalidValue
  /-- A value is not of the right kind. -/
  | valueValidation
deriving DecidableEq, Repr

/-- The exit code of a process whose command line is not run. -/
def UsageError.exitCode : UsageError → Nat
  | .displayHelp | .displayVersion => 0
  | _ => 2

/-- What values a parameter takes. -/
inductive Kind where
  | text
  /-- The path of a file, which is never empty. -/
  | path
  /-- A number of 64 bits without a sign. -/
  | nat
  | format
  | color
  | shell
  /-- None: it is on if it is given. -/
  | flag
  /-- None: what counts is how often it is given. -/
  | count
  /-- None: it asks for help. -/
  | help
  | version
deriving DecidableEq, Repr

/-- Whether a parameter is followed by a value. -/
def Kind.takesValue : Kind → Bool
  | .flag | .count | .help | .version => false
  | _ => true

/-- The value of a parameter. -/
inductive Given where
  | text (s : String)
  | nat (n : Nat)
  | format (f : OutputFormat)
  | color (c : ColorMode)
  | shell (s : Shell)
  | flag
deriving DecidableEq, Repr

/-- Reads one of several values by its name. -/
def named {α : Type} (f : α → Given) (table : List (String × α)) (s : String) :
    Except UsageError Given :=
  match table.lookup s with
  | some a => .ok (f a)
  | none => .error .invalidValue

/-- Reads the value of a parameter. -/
def Kind.read (s : String) : Kind → Except UsageError Given
  | .path => if s.isEmpty then .error .invalidValue else .ok (.text s)
  | .nat =>
    match Text.natUpTo? Text.maxU64 s.toList with
    | some n => .ok (.nat n)
    | none => .error .valueValidation
  | .format => named .format formats s
  | .color => named .color colors s
  | .shell => named .shell shells s
  | _ => .ok (.text s)

/-- A parameter. -/
structure Parameter where
  name : String
  kind : Kind
  /-- The name behind two dashes. -/
  long? : Option String := none
  /-- The letter behind one dash. -/
  short? : Option Char := none
  /-- The environment variable that gives the value if the command line does not. -/
  environment? : Option String := none
deriving DecidableEq, Repr

/-- Where a value comes from, the more explicit the greater. -/
inductive Source where
  | environment
  | commandLine
deriving DecidableEq, Repr

/-- A value and where it comes from. -/
structure Match where
  name : String
  source : Source
  value : Given
deriving DecidableEq, Repr

end Cli

end RouterMenu
