import RunLine.Command
/-!
# The words of the command line

The names of the commands, the options that each takes, and its operands, with what help says about
them.
-/

namespace RunLine.Command

def program : Text := Text.lit "lit-sandbox"

def version : Text := Text.lit "0.1.0"

def purpose : Text :=
  Text.lit "Rewrite lit RUN lines to execute sandboxed binaries under a VM shell"

/-- The commands by kind. -/
inductive Verb where
  | rewrite
  | shield
  | restore
  | classify
  | init
  | completions
  deriving DecidableEq, Repr

/-- The options that take a value. -/
inductive ValueOption where
  | launcher
  | searchPath
  | quotes
  deriving DecidableEq, Repr

/-- What may follow two dashes. -/
inductive LongName where
  | json
  | value (option : ValueOption)
  | help
  deriving DecidableEq, Repr

/-- How often an operand may be given. -/
inductive Arity where
  | one
  | some
  | any
  deriving DecidableEq, Repr

/-- The operands of a command. -/
structure Operand where
  name : Text
  arity : Arity
  about : Text
  deriving DecidableEq, Repr

namespace Verb

/-- All commands, in the order in which they are listed. -/
def all : List Verb := [rewrite, shield, restore, classify, init, completions]

def name : Verb → Text
  | rewrite => Text.lit "rewrite"
  | shield => Text.lit "shield"
  | restore => Text.lit "restore"
  | classify => Text.lit "classify"
  | init => Text.lit "init"
  | completions => Text.lit "completions"

def ofText? (text : Text) : Option Verb := all.find? (·.name == text)

def about : Verb → Text
  | rewrite => Text.lit "Rewrite RUN lines (arguments, or one per stdin line)"
  | shield => Text.lit "Show how quoted text is shielded before tokenizing"
  | restore => Text.lit "Put shielded quotes back into a line"
  | classify => Text.lit "Report whether commands resolve to sandboxed or host binaries"
  | init => Text.lit "Generate example .lit-sandbox.yaml configuration file"
  | completions => Text.lit "Generate shell completions"

/-- The options of a command apart from the one for help. -/
def options : Verb → List LongName
  | rewrite => [.json, .value .launcher, .value .searchPath]
  | restore => [.value .quotes]
  | classify => [.value .launcher, .value .searchPath]
  | shield | init | completions => []

def operand? : Verb → Option Operand
  | rewrite =>
      some ⟨Text.lit "LINES", .any, Text.lit "Lines to rewrite. Reads stdin when omitted"⟩
  | shield => some ⟨Text.lit "LINE", .one, Text.lit "Line to shield"⟩
  | restore => some ⟨Text.lit "LINE", .one, Text.lit "Shielded line"⟩
  | classify => some ⟨Text.lit "NAMES", .some, Text.lit "Command names or paths"⟩
  | init => none
  | completions =>
      some ⟨Text.lit "SHELL", .one, Text.lit "The shell to generate completions for"⟩

end Verb

namespace ValueOption

def name : ValueOption → Text
  | launcher => Text.lit "launcher"
  | searchPath => Text.lit "search-path"
  | quotes => Text.lit "quotes"

def valueName : ValueOption → Text
  | launcher => Text.lit "LAUNCHER"
  | searchPath => Text.lit "SEARCH_PATH"
  | quotes => Text.lit "QUOTES"

end ValueOption

namespace LongName

/-- The word after the dashes. -/
def name : LongName → Text
  | json => Text.lit "json"
  | value option => option.name
  | help => Text.lit "help"

def about : LongName → Text
  | json => Text.lit "Read stdin as JSON values, one per line; only strings are accepted"
  | value .launcher =>
      Text.lit "Wrapper command prepended to sandboxed binaries (default: zvsh)"
  | value .searchPath =>
      Text.lit "Directories to search for command heads, PATH syntax (default: $PATH)"
  | value .quotes => Text.lit "The \x60quotes\x60 object printed by \x60shield\x60, as JSON"
  | help => Text.lit "Print help"

end LongName

def Verb.option? (verb : Verb) (word : Text) : Option LongName :=
  (verb.options ++ [LongName.help]).find? (·.name == word)

end RunLine.Command
