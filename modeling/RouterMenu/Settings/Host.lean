import RouterMenu.Text.Cut

/-!
# Hosts

What a command can see of the host it runs on: where it runs, its environment, and the file of
settings.
-/

namespace RouterMenu

/-- A host as seen by a command. -/
structure Host where
  /-- The directory of the user. -/
  home : String
  /-- The directory the command runs in. -/
  directory : String
  /-- The environment: names and values. -/
  environment : List (String × String) := []
  /-- The text of the file of settings, if there is one. -/
  settings? : Option String := none
deriving DecidableEq, Repr

namespace Host

/-- The value of an environment variable. -/
def env? (h : Host) (name : String) : Option String := h.environment.lookup name

/-- A path below a directory. -/
def below (directory name : String) : String :=
  if directory.toList.getLast? = some '/' then directory ++ name else directory ++ "/" ++ name

/-- The directory of settings of all programs: the one that the environment names by a path from
the root, or one in the directory of the user. -/
def settingsDirectory (h : Host) : String :=
  match h.env? "XDG_CONFIG_HOME" with
  | some path => if path.toList.head? = some '/' then path else below h.home ".config"
  | none => below h.home ".config"

/-- The path of the file of settings. -/
def settingsPath (h : Host) : String := below (below h.settingsDirectory "tikly") "config.toml"

/-- The names that a path is made of. -/
def names (path : String) : List String :=
  (Text.pieces '/' path.toList).filterMap fun piece =>
    if piece.isEmpty ∨ piece = ['.'] then none else some (String.ofList piece)

/-- The way from one directory to what is reached from the root by some names. -/
def way : List String → List String → List String
  | a :: start, b :: goal =>
    if a = b then way start goal else (a :: start).map (fun _ => "..") ++ b :: goal
  | start, goal => start.map (fun _ => "..") ++ goal

/-- A path as it is shown: from the directory the command runs in, if that is shorter. -/
def shown (h : Host) (path : String) : String :=
  let goal := names path
  let found := way (names h.directory) goal
  if found.length < goal.length + 1 then "/".intercalate found else path

end Host

end RouterMenu
