import RouterMenu.Cli.Parameter
import RouterMenu.Text.Cut

/-!
# Reading a command line

Commands form levels: the word of a command leads to the level within it, whose parameters and
commands go on from there. Words are read from left to right. An option waits for its value until
the next word comes, and whether it got one is only looked at when the next option or operand is
met, or when the level ends; a level ends after the levels within it.
-/

namespace RouterMenu.Cli

/-- A level of commands. -/
inductive Level where
  /-- The first name is the proper one. A level has levels within it, or an operand, or neither. -/
  | mk (names : List String) (parameters : List Parameter) (operand? : Option Parameter)
    (subs : List Level)

namespace Level

/-- The names of the command. -/
def names : Level → List String
  | .mk names .. => names

/-- The proper name of the command. -/
def name (l : Level) : String := l.names.head?.getD ""

/-- The parameters that may stand on the level. -/
def parameters : Level → List Parameter
  | .mk _ parameters .. => parameters

/-- The parameter that is given by its place. It must be given. -/
def operand? : Level → Option Parameter
  | .mk _ _ operand? _ => operand?

/-- The levels within. -/
def subs : Level → List Level
  | .mk _ _ _ subs => subs

/-- The word that asks for help about a command. -/
def helpWord : String := "help"

/-- The level within that a word leads to. -/
def sub? (l : Level) (word : String) : Option Level :=
  l.subs.find? fun s => s.names.contains word

/-- Whether a word leads somewhere. -/
def leads (l : Level) (word : String) : Bool :=
  (l.sub? word).isSome || (!l.subs.isEmpty && word == helpWord)

/-- The parameter of a name behind two dashes. -/
def long? (l : Level) (name : String) : Option Parameter :=
  l.parameters.find? fun p => p.long? == some name

/-- The parameter of a letter behind one dash. -/
def short? (l : Level) (letter : Char) : Option Parameter :=
  l.parameters.find? fun p => p.short? == some letter

end Level

/-- How far a level has been read. -/
structure Scan where
  /-- The parameters whose values have been looked at. -/
  found : List Match := []
  /-- The parameter whose value has not, and the value if it has come. -/
  pending? : Option (Parameter × Option String) := none
  /-- The next word is the value of the pending parameter. -/
  awaiting : Bool := false
  /-- Two dashes have come: every further word is an operand. -/
  trailing : Bool := false
  /-- The operand has come. -/
  operandSeen : Bool := false
deriving DecidableEq, Repr

namespace Scan

/-- Whether a parameter has been given. -/
def has (s : Scan) (name : String) : Bool := s.found.any fun m => m.name == name

/-- How often a parameter has been given. -/
def count (s : Scan) (name : String) : Nat :=
  match s.found.find? fun m => m.name == name with
  | some ⟨_, _, .nat n⟩ => n
  | _ => 0

/-- The greatest count. -/
def maxCount : Nat := 255

/-- Enters the value of a parameter. Only what counts may be entered twice. -/
def enter (s : Scan) (p : Parameter) (source : Source) (value? : Option String) :
    Except UsageError Scan :=
  match p.kind with
  | .count =>
    let n := min (s.count p.name + 1) maxCount
    .ok { s with
      found := s.found.filter (fun m => m.name != p.name) ++ [⟨p.name, source, .nat n⟩] }
  | .help | .version => .ok s
  | kind =>
    if kind.takesValue && value?.isNone then .error .invalidValue
    else if s.has p.name then .error .argumentConflict
    else do
      let value ← match value? with
        | some text => kind.read text
        | none => .ok .flag
      .ok { s with found := s.found ++ [⟨p.name, source, value⟩] }

/-- Looks at the value of the pending parameter. -/
def resolve (s : Scan) : Except UsageError Scan :=
  match s.pending? with
  | none => .ok s
  | some (p, value?) => ({ s with pending? := none }).enter p .commandLine value?

/-- Enters a parameter that is complete, behind the pending one. A question is answered at once,
whatever comes after it. -/
def give (s : Scan) (p : Parameter) (value? : Option String) : Except UsageError Scan := do
  let s ← s.resolve
  match p.kind with
  | .help => .error .displayHelp
  | .version => .error .displayVersion
  | _ =>
    let s ← s.enter p .commandLine value?
    .ok { s with awaiting := false }

/-- Lets a parameter wait for its value. -/
def await (s : Scan) (p : Parameter) : Except UsageError Scan := do
  let s ← s.resolve
  .ok { s with pending? := some (p, none), awaiting := true }

/-- Reads a word behind two dashes. -/
def long (l : Level) (s : Scan) (body : List Char) : Except UsageError Scan :=
  let (name, value?) := match Text.cut '=' body with
    | some (name, value) => (name, some (String.ofList value))
    | none => (body, none)
  match l.long? (String.ofList name) with
  | none => .error .unknownArgument
  | some p =>
    if p.kind.takesValue then
      match value? with
      | some value => s.give p (some value)
      | none => s.await p
    else if value?.isSome then .error .tooManyValues
    else s.give p none

/-- Reads the letters behind one dash. A letter that takes a value takes the rest of the word for
it. -/
def shorts (l : Level) (s : Scan) : List Char → Except UsageError Scan
  | [] => .ok s
  | c :: rest =>
    match l.short? c with
    | none => .error .unknownArgument
    | some p =>
      if p.kind.takesValue then
        match rest with
        | [] => s.await p
        | '=' :: value => s.give p (some (String.ofList value))
        | value => s.give p (some (String.ofList value))
      else do
        let s ← s.give p none
        shorts l s rest

/-- Reads a word that begins with a dash; there is nothing to read in a dash alone, nor in another
word. -/
def dashed? (l : Level) (s : Scan) (w : List Char) : Except UsageError (Option Scan) :=
  match w with
  | ['-', '-'] => .ok (some { s with trailing := true })
  | '-' :: '-' :: body => (s.long l body).map some
  | '-' :: c :: rest => (s.shorts l (c :: rest)).map some
  | _ => .ok none

/-- Reads a word that is no parameter: a value that is waited for, or the operand. -/
def plain (l : Level) (s : Scan) (w : String) : Except UsageError Scan :=
  match s.pending?, s.awaiting && !s.trailing, l.operand?, s.operandSeen with
  | some (p, _), true, _, _ => .ok { s with pending? := some (p, some w), awaiting := false }
  | _, _, some p, false => do
    let s ← s.resolve
    .ok { s with pending? := some (p, some w), awaiting := false, operandSeen := true }
  | _, _, _, _ =>
    if s.trailing && l.leads w then .error .unknownArgument
    else if l.subs.isEmpty then .error .unknownArgument
    else .error .invalidSubcommand

/-- Reads a word that leads to no other level. -/
def word (l : Level) (s : Scan) (w : String) : Except UsageError Scan :=
  if s.trailing then s.plain l w
  else do
    match ← s.dashed? l w.toList with
    | some s => .ok s
    | none => s.plain l w

/-- Whether a word may lead to another level. -/
def mayLead (s : Scan) : Bool := !s.trailing && !s.awaiting

/-- What stands in the environment for parameters that have not been given. -/
def fillIn (env : List (String × String)) : Scan → List Parameter →
    Except UsageError Scan
  | s, [] => .ok s
  | s, p :: ps => do
    let s ← if s.has p.name then .ok s
      else match p.environment?.bind (fun name => env.lookup name) with
        | some value => s.enter p .environment (some value)
        | none => .ok s
    fillIn env s ps

/-- Ends a level; `entered` says whether a level within it was entered. -/
def finish (l : Level) (env : List (String × String)) (entered : Bool) (s : Scan) :
    Except UsageError Scan := do
  let s ← s.resolve
  let s ← fillIn env s l.parameters
  if !entered && !l.subs.isEmpty then
    if s.found.isEmpty then .error .displayHelpOnMissing else .error .missingSubcommand
  else match l.operand? with
    | some p => if s.has p.name then .ok s else .error .missingRequiredArgument
    | none => .ok s

end Scan

/-- The level that a request for help is about, if there is one. -/
def helpAbout (l : Level) : List String → UsageError
  | [] => .displayHelp
  | w :: rest =>
    match l.sub? w with
    | some sub => helpAbout sub rest
    | none => if l.leads w ∧ rest.isEmpty then .displayHelp else .invalidSubcommand

/-- A command line that has been read: the proper names of the commands, and what was given on each
level, from the outermost on. -/
structure Reading where
  commands : List String := []
  levels : List (List Match) := []
deriving DecidableEq, Repr

/-- Reads words from some point of a level on. -/
def readFrom (env : List (String × String)) (l : Level) (s : Scan) :
    List String → Except UsageError Reading
  | [] => do
    let s ← s.finish l env false
    .ok { levels := [s.found] }
  | w :: rest =>
    if s.mayLead && l.leads w then
      match l.sub? w with
      | some sub => do
        let inner ← readFrom env sub {} rest
        let s ← s.finish l env true
        .ok { commands := sub.name :: inner.commands, levels := s.found :: inner.levels }
      | none => .error (helpAbout l rest)
    else do
      let s ← s.word l w
      readFrom env l s rest

/-- Reads a command line. -/
def read (env : List (String × String)) (l : Level) (words : List String) :
    Except UsageError Reading := readFrom env l {} words

namespace Reading

/-- The value of a parameter that may stand on every level: that of the most explicit source, and
of several such the one on the innermost level. -/
def value? (r : Reading) (name : String) : Option Given :=
  let all := r.levels.filterMap fun found => found.find? fun m => m.name == name
  let explicit := all.filter fun m => m.source == .commandLine
  (explicit.getLast?.or all.getLast?).map Match.value

/-- The text of a parameter. -/
def text? (r : Reading) (name : String) : Option String :=
  match r.value? name with
  | some (.text s) => some s
  | _ => none

/-- The number of a parameter. -/
def nat? (r : Reading) (name : String) : Option Nat :=
  match r.value? name with
  | some (.nat n) => some n
  | _ => none

/-- Whether a flag is on. -/
def flag (r : Reading) (name : String) : Bool := r.value? name == some .flag

end Reading

end RouterMenu.Cli
