import RouterMenu.Cli.Target
import RouterMenu.Settings.Writer
import RouterMenu.Text.Utf8

/-!
# Disks

The file of settings is read before a command is run, and one verb writes it. What a file holds are
bytes; where they are no text, there are no settings to be loaded.
-/

namespace RouterMenu.Cli

/-- What can be done with a disk. Where it fails the operating system says why. -/
structure Disk (m : Type → Type) where
  /-- The bytes of a file, if there is such a file. -/
  read : String → m (Except String (Option (List UInt8)))
  /-- Makes a directory, and those above it. -/
  makeDirectory : String → m (Except String Unit)
  /-- Puts a text into a file, in place of all that it held. -/
  write : String → String → m (Except String Unit)

/-- A text that breaks the rules of every file of settings. It stands for what is no text. -/
def noText : String := "\x00"

/-- The text that bytes are. -/
def fileText (bytes : List UInt8) : String := (String.fromUTF8? ⟨bytes.toArray⟩).getD noText

/-- A host with what was found where its file of settings should be. -/
def hostWith (h : Host) : Except String (Option (List UInt8)) → Host
  | .ok bytes? => { h with settings? := bytes?.map fileText }
  | .error _ => { h with settings? := some noText }

/-- The directory of the file of settings. -/
def ownDirectory (h : Host) : String := Host.below h.settingsDirectory "tikly"

/-- The settings with another default profile, which must be one of theirs. -/
def withDefault (h : Host) (name : String) : Except Failure Settings := do
  let s ← settled h (Settings.load h)
  if (s.profile? name).isNone then
    .error (.profileNotFound name (", ".intercalate s.names))
  .ok { s with defaultProfile? := some name }

/-- What is reported when a profile was made the default by writing this text. -/
def defaultSet (o : Options) (name text : String) : Report :=
  { Report.remark o ("Default profile set to '" ++ name ++ "'") with saved? := some text }

namespace Disk

variable {m : Type → Type} [Monad m] (disk : Disk m)

/-- A host with its file of settings. -/
def host (h : Host) : m Host := return hostWith h (← disk.read h.settingsPath)

/-- Blames the file of settings for what goes wrong on the disk. -/
def blaming {α : Type} (h : Host) (x : m (Except String α)) : ExceptT Failure m α :=
  ExceptT.mk (return (← x).mapError fun reason => .ofSettings h.settingsPath (.io reason))

/-- Writes settings to their file, as a text that is there before the file is opened. -/
def save (h : Host) (s : Settings) : ExceptT Failure m String := do
  blaming h (disk.makeDirectory (ownDirectory h))
  let text ← ofExcept (settled h s.write)
  blaming h (disk.write h.settingsPath text)
  return text

/-- Makes a profile the default: the file of settings is written anew, with all that the settings
hold. -/
def use (o : Options) (h : Host) (name : String) : ExceptT Failure m Report := do
  let s ← ofExcept (withDefault h name)
  return defaultSet o name (← disk.save h s)

/-- A disk on which nothing goes wrong, and nothing is kept. -/
def sound : Disk Id where
  read _ := .ok none
  makeDirectory _ := .ok ()
  write _ _ := .ok ()

end Disk

end RouterMenu.Cli
