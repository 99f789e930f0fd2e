import RunLine.Command.Menu
/-!
# Completions for zsh

A function for the command line, in which every menu lists its options and its operand, and one
function for the commands of each menu.
-/

namespace RunLine.Command.Zsh

/-- A description inside of single quotes. -/
def escaped (about : Text) : Text :=
  about.flatMap fun letter =>
    if letter = '\'' then Text.lit "'\\''"
    else if (Text.lit "\\[]:$\x60").contains letter then ['\\', letter]
    else [letter]

def entry (content : Text) : Text := singleQuoted content ++ Text.lit " \\"

def choiceEntries (choice : Choice) : List Text :=
  let described := bracketed '[' ']' (escaped choice.about)
  choice.forms.map fun form =>
    entry <|
      match choice.value with
      | none => form ++ described
      | some value => form ++ '=' :: described ++ ':' :: value ++ Text.lit ":_default"

def operandEntry (values : List Text) (operand : Operand) : Text :=
  let repetition := if operand.arity = .one then [] else Text.lit "*:"
  let completion :=
    if values.isEmpty then Text.lit "_default" else bracketed '(' ')' (spaced values)
  entry (repetition ++ ':' :: operand.name.lowered ++ Text.lit " -- " ++ escaped operand.about ++
    ':' :: completion)

def commandsFunction (menu : Menu) : Text :=
  '_' :: menu.joined (Text.lit "__subcmd__") ++ Text.lit "_commands"

def arguments (menu : Menu) : List Text :=
  let last := menu.path.getLast?.getD program
  Text.lit "_arguments \"$\x7b_arguments_options[@]\x7d\" : \\" ::
    (menu.valued ++ menu.switches).flatMap choiceEntries ++
    menu.operand.toList.map (operandEntry menu.values) ++
    (if menu.commands.isEmpty then []
      else
        [doubleQuoted (Text.lit ":: :" ++ commandsFunction menu) ++ Text.lit " \\",
          doubleQuoted (Text.lit "*::: :->" ++ last) ++ Text.lit " \\"]) ++
    [Text.lit "&& ret=0"]

/-- How the menus of the commands follow a menu. -/
def branches (menu : Menu) (bodies : List (Text × List Text)) : List Text :=
  let last := menu.path.getLast?.getD program
  [Text.lit "    case $state in",
    Text.lit "    " ++ bracketed '(' ')' last,
    Text.lit "        words=($line[1] \"$\x7bwords[@]\x7d\")",
    Text.lit "        (( CURRENT += 1 ))",
    Text.lit "        curcontext=\"$\x7bcurcontext%:*:*\x7d:" ++ menu.joined ['-'] ++
      Text.lit "-command-$line[1]:\"",
    Text.lit "        case $line[1] in"] ++
  (bodies.flatMap fun body =>
    (Text.lit "            " ++ bracketed '(' ')' body.1) :: body.2 ++ [Text.lit ";;"]) ++
  [Text.lit "        esac",
    Text.lit "    ;;",
    Text.lit "esac"]

/-- The body that a menu has under its own word. -/
def body (menu : Menu) (content : List Text) : Text × List Text :=
  (menu.path.getLast?.getD program, content)

def listing (menu : Menu) : List Text :=
  let commands := menu.commands.map fun command =>
    entry (command.1 ++ ':' :: escaped command.2)
  let name := commandsFunction menu
  [Text.lit "(( $+functions[" ++ name ++ Text.lit "] )) ||",
    name ++ Text.lit "() \x7b"] ++
  (if commands.isEmpty then [Text.lit "    local commands; commands=()"]
    else Text.lit "    local commands; commands=(" :: commands ++ [Text.lit "    )"]) ++
  [Text.lit "    _describe -t commands " ++
      singleQuoted (menu.joined [' '] ++ Text.lit " commands") ++ Text.lit " commands \"$@\"",
    Text.lit "\x7d"]

def script : List Text :=
  let function := '_' :: program
  let behindHelp := Menu.behindHelp.map fun menu => body menu (arguments menu)
  let help := body Menu.help (arguments Menu.help ++ [] :: branches Menu.help behindHelp)
  let bodies := Menu.ofVerbs.map (fun menu => body menu (arguments menu)) ++ [help]
  [Text.lit "#compdef " ++ program,
    [],
    Text.lit "autoload -U is-at-least",
    [],
    function ++ Text.lit "() \x7b",
    Text.lit "    typeset -A opt_args",
    Text.lit "    typeset -a _arguments_options",
    Text.lit "    local ret=1",
    [],
    Text.lit "    if is-at-least 5.2; then",
    Text.lit "        _arguments_options=(-s -S -C)",
    Text.lit "    else",
    Text.lit "        _arguments_options=(-s -C)",
    Text.lit "    fi",
    [],
    Text.lit "    local context curcontext=\"$curcontext\" state line"] ++
  (arguments Menu.first ++ branches Menu.first bodies) ++
  [Text.lit "\x7d", []] ++
  Menu.all.flatMap listing ++
  [[],
    Text.lit "if [ \"$funcstack[1]\" = \"" ++ function ++ Text.lit "\" ]; then",
    Text.lit "    " ++ function ++ Text.lit " \"$@\"",
    Text.lit "else",
    Text.lit "    compdef " ++ function ++ ' ' :: program,
    Text.lit "fi"]

end RunLine.Command.Zsh
