import RunLine.Settings
/-!
# Commands of the program

What the program can be asked to do.
-/

namespace RunLine

/-- The shells that completions are written for. -/
inductive Shell where
  | bash
  | elvish
  | fish
  | powershell
  | zsh
  deriving DecidableEq, Repr

namespace Shell

/-- All shells, in the order in which they are listed. -/
def all : List Shell := [bash, elvish, fish, powershell, zsh]

def name : Shell → Text
  | bash => Text.lit "bash"
  | elvish => Text.lit "elvish"
  | fish => Text.lit "fish"
  | powershell => Text.lit "powershell"
  | zsh => Text.lit "zsh"

def ofText? (text : Text) : Option Shell := all.find? (·.name == text)

end Shell

/-- A request to the program. -/
inductive Command where
  /-- Rewrites the lines given, or those of the standard input; `json` is about the latter. -/
  | rewrite (lines : List Text) (json : Bool) (overrides : Overrides)
  /-- Shows how a line is shielded. -/
  | shield (line : Text)
  /-- Puts quotes back into a shielded line. -/
  | restore (line quotes : Text)
  /-- Reports the classes of command names. -/
  | classify (names : List Text) (overrides : Overrides)
  /-- Writes the example file. -/
  | init
  /-- Writes completions for a shell. -/
  | completions (shell : Shell)
  deriving DecidableEq, Repr

end RunLine
