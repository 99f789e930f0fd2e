import RunLine.Command.Menu
/-!
# Completions for fish

One line for every option and every command, under the condition that the words so far lead to its
menu.  Operands are left to the completion of files.
-/

namespace RunLine.Command.Fish

/-- A text between single quotes, where a backslash escapes. -/
def quoted (text : Text) : Text :=
  singleQuoted (Text.replace ['\''] (Text.lit "\\'") (Text.replace ['\\'] (Text.lit "\\\\") text))

/-- What the functions of the script are called, up to what each of them does. -/
def functionStart : Text := Text.lit "__fish_" ++ Text.replace ['-'] ['_'] program

/-- The condition that no command was given yet. -/
def needsCommand : Text := functionStart ++ Text.lit "_needs_command"

/-- The condition that a command was given. -/
def usingCommand : Text := functionStart ++ Text.lit "_using_subcommand"

/-- The condition under which a menu is offered. -/
def condition (menu : Menu) : Text :=
  match menu.path with
  | [] => needsCommand
  | word :: _ =>
      usingCommand ++ ' ' :: word ++
        if menu.commands.isEmpty then []
        else
          Text.lit "; and not __fish_seen_subcommand_from " ++ spaced (menu.commands.map Prod.fst)

def branch (menu : Menu) : List Text :=
  let start := Text.lit "complete -c " ++ program ++ Text.lit " -n " ++
    doubleQuoted (condition menu)
  let described (about : Text) : Text := Text.lit " -d " ++ quoted about
  ((menu.valued ++ menu.switches).map fun choice =>
    start ++ choice.short.toList.flatMap (fun letter => Text.lit " -s " ++ [letter]) ++
      Text.lit " -l " ++ choice.name ++ described choice.about ++
      if choice.value.isSome then Text.lit " -r" else []) ++
  menu.commands.map fun entry =>
    start ++ Text.lit " -f -a " ++ doubleQuoted entry.1 ++ described entry.2

def script : List Text :=
  let optionNames := functionStart ++ Text.lit "_global_optspecs"
  let shortAndLong (choice : Choice) : Text :=
    choice.short.toList.flatMap (fun letter => [letter, '/']) ++ choice.name
  [Text.lit "# Print an optspec for argparse to handle cmd's options that are independent of any " ++
      Text.lit "subcommand.",
    Text.lit "function " ++ optionNames,
    Text.lit "\tstring join \\n " ++ spaced (Menu.first.choices.map shortAndLong),
    Text.lit "end",
    [],
    Text.lit "function " ++ needsCommand,
    Text.lit "\t# Figure out if the current invocation already has a command.",
    Text.lit "\tset -l cmd (commandline -opc)",
    Text.lit "\tset -e cmd[1]",
    Text.lit "\targparse -s (" ++ optionNames ++ Text.lit ") -- $cmd 2>/dev/null",
    Text.lit "\tor return",
    Text.lit "\tif set -q argv[1]",
    Text.lit "\t\t# Also print the command, so this can be used to figure out what it is.",
    Text.lit "\t\techo $argv[1]",
    Text.lit "\t\treturn 1",
    Text.lit "\tend",
    Text.lit "\treturn 0",
    Text.lit "end",
    [],
    Text.lit "function " ++ usingCommand,
    Text.lit "\tset -l cmd (" ++ needsCommand ++ [')'],
    Text.lit "\ttest -z \"$cmd\"",
    Text.lit "\tand return 1",
    Text.lit "\tcontains -- $cmd[1] $argv",
    Text.lit "end",
    []] ++
  Menu.all.flatMap branch

end RunLine.Command.Fish
