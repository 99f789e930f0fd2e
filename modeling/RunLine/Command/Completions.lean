import RunLine.Command.Completions.Bash
import RunLine.Command.Completions.Elvish
import RunLine.Command.Completions.Fish
import RunLine.Command.Completions.PowerShell
import RunLine.Command.Completions.Zsh
/-!
# Completions

For every shell a script that completes the words of the command line from the same menus.
-/

namespace RunLine

/-- The script that completes the command line in a shell. -/
def Shell.completions : Shell → Text
  | bash => Command.lines Command.Bash.script
  | elvish => Command.lines Command.Elvish.script
  | fish => Command.lines Command.Fish.script
  | powershell => Command.lines Command.PowerShell.script
  | zsh => Command.lines Command.Zsh.script

end RunLine
