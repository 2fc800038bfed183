import RouterMenu.Cli.Invocation

/-!
# Completions

A line for each shell that has it offer the names of the commands behind the name of the program.
-/

namespace RouterMenu.Cli

/-- The names of all commands. -/
def commandNames : List String := root.subs.map Level.name

/-- The completions for a shell. -/
def completions (s : Shell) : String :=
  let words := " ".intercalate commandNames
  match s with
  | .bash => "complete -W \"" ++ words ++ "\" tikly\n"
  | .elvish =>
    "set edit:completion:arg-completer[tikly] = \x7b|@words| put " ++ words ++ " \x7d\n"
  | .fish => "complete -c tikly -f -a \"" ++ words ++ "\"\n"
  | .powershell =>
    "Register-ArgumentCompleter -Native -CommandName tikly -ScriptBlock \x7b param($w) "
      ++ "(-split \"" ++ words ++ "\") -like \"$w*\" \x7d\n"
  | .zsh => "compctl -k (" ++ words ++ ") tikly\n"

end RouterMenu.Cli
