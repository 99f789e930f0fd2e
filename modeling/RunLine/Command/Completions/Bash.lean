import RunLine.Command.Menu
/-!
# Completions for bash

The words on the line so far lead to a menu, whose words are completed.  Bash shows no descriptions.
-/

namespace RunLine.Command.Bash

/-- A name with what an identifier may hold in place of dashes. -/
def identifierOf (name : Text) : Text := Text.replace ['-'] (Text.lit "__") name

/-- The identifier of the menu after some words. -/
def identifier (path : List Text) : Text :=
  (Text.lit "__subcmd__").intercalate ((program :: path).map identifierOf)

/-- How a word leads from one menu to the next. -/
def step (menu : Menu) (word : Text) : List Text :=
  [identifier menu.path ++ ',' :: word ++ [')'],
    Text.lit "    cmd=" ++ doubleQuoted (identifier (menu.path ++ [word])),
    Text.lit "    ;;"]

def words (menu : Menu) : Text :=
  let operands := if menu.values.isEmpty then menu.operand.toList.map Operand.call else menu.values
  spaced <|
    menu.choices.flatMap (fun choice => choice.short.toList.map (['-', ·])) ++
      menu.choices.map (fun choice => Text.lit "--" ++ choice.name) ++ operands ++
      menu.commands.map Prod.fst

/-- How the words that start like the current one are offered. -/
def offer : Text := Text.lit "COMPREPLY=( $(compgen -W \"$\x7bopts\x7d\" -- \"$\x7bcur\x7d\") )"

/-- How a value is completed: with the name of a file. -/
def offerFiles (choice : Choice) : List Text :=
  [Text.lit "--" ++ choice.name ++ [')'],
    Text.lit "    COMPREPLY=($(compgen -f \"$\x7bcur\x7d\"))",
    Text.lit "    return 0",
    Text.lit "    ;;"]

/-- How a menu is completed. -/
def branch (menu : Menu) : List Text :=
  [identifier menu.path ++ [')'],
    Text.lit "    opts=" ++ doubleQuoted (words menu),
    Text.lit "    if [[ $\x7bcur\x7d == -* || $\x7bCOMP_CWORD\x7d -eq " ++
      Text.ofNat menu.position ++ Text.lit " ]] ; then",
    Text.lit "        " ++ offer,
    Text.lit "        return 0",
    Text.lit "    fi",
    Text.lit "    case \"$\x7bprev\x7d\" in"] ++
  indented 8 (menu.valued.flatMap offerFiles) ++
  [Text.lit "        *)",
    Text.lit "            COMPREPLY=()",
    Text.lit "            ;;",
    Text.lit "    esac",
    Text.lit "    " ++ offer,
    Text.lit "    return 0",
    Text.lit "    ;;"]

def script : List Text :=
  let function := '_' :: program
  [function ++ Text.lit "() \x7b",
    Text.lit "    local i cur prev opts cmd",
    Text.lit "    COMPREPLY=()",
    Text.lit "    if [[ \"$\x7bBASH_VERSINFO[0]\x7d\" -ge 4 ]]; then",
    Text.lit "        cur=\"$2\"",
    Text.lit "    else",
    Text.lit "        cur=\"$\x7bCOMP_WORDS[COMP_CWORD]\x7d\"",
    Text.lit "    fi",
    Text.lit "    prev=\"$3\"",
    Text.lit "    cmd=\"\"",
    Text.lit "    opts=\"\"",
    [],
    Text.lit "    for i in \"$\x7bCOMP_WORDS[@]:0:COMP_CWORD\x7d\"",
    Text.lit "    do",
    Text.lit "        case \"$\x7bcmd\x7d,$\x7bi\x7d\" in",
    Text.lit "            \",$1\")",
    Text.lit "                cmd=" ++ doubleQuoted (identifier []),
    Text.lit "                ;;"] ++
  indented 12 (Menu.all.flatMap fun menu => menu.commands.flatMap fun entry => step menu entry.1) ++
  [Text.lit "            *)",
    Text.lit "                ;;",
    Text.lit "        esac",
    Text.lit "    done",
    [],
    Text.lit "    case \"$\x7bcmd\x7d\" in"] ++
  indented 8 (Menu.all.flatMap branch) ++
  [Text.lit "    esac",
    Text.lit "\x7d",
    [],
    Text.lit "if [[ \"$\x7bBASH_VERSINFO[0]\x7d\" -eq 4 && \"$\x7bBASH_VERSINFO[1]\x7d\" -ge 4 || " ++
      Text.lit "\"$\x7bBASH_VERSINFO[0]\x7d\" -gt 4 ]]; then",
    Text.lit "    complete -F " ++ function ++ Text.lit " -o nosort -o bashdefault -o default " ++
      program,
    Text.lit "else",
    Text.lit "    complete -F " ++ function ++ Text.lit " -o bashdefault -o default " ++ program,
    Text.lit "fi"]

end RunLine.Command.Bash
