import CrossBuild.CommandLine.Basic

/-!
# Completions

A script for each shell that completes the names of the tasks.
-/
namespace CrossBuild.CommandLine

/-- The name under which the program is called. -/
def programName : String := "gyptest"

namespace CompletionShell

/-- The names of the tasks, between spaces. -/
def words : String :=
  Text.joinWith " " rootGrammar.commands

/-- The script for a shell. -/
def script : CompletionShell → String
  | bash => "complete -W '" ++ words ++ "' " ++ programName ++ "\n"
  | elvish =>
    "set edit:completion:arg-completer[" ++ programName ++ "] = \x7b|@words| put " ++ words ++
      " \x7d\n"
  | fish => "complete -c " ++ programName ++ " -f -n __fish_use_subcommand -a '" ++ words ++ "'\n"
  | powershell =>
    "Register-ArgumentCompleter -Native -CommandName " ++ programName ++
      " -ScriptBlock \x7b param($word) -split '" ++ words ++ "' -like \"$word*\" \x7d\n"
  | zsh => "#compdef " ++ programName ++ "\n_arguments '1:task:(" ++ words ++ ")'\n"

end CompletionShell

end CrossBuild.CommandLine
