import RunLine.Command.Menu
/-!
# Completions for Elvish

A map leads from the words so far, between semicolons, to the entries of a menu.  Operands are not
completed.
-/

namespace RunLine.Command.Elvish

/-- A text between single quotes, which are doubled inside. -/
def quoted (text : Text) : Text :=
  singleQuoted (Text.replace ['\''] (Text.lit "''") text)

def candidate (word about : Text) : Text :=
  Text.lit "    cand " ++ word ++ ' ' :: quoted about

/-- The entries of an option. -/
def candidates (choice : Choice) : List Text :=
  choice.forms.map (candidate · choice.about)

def branch (menu : Menu) : List Text :=
  ['&' :: singleQuoted (menu.joined [';']) ++ Text.lit "= \x7b"] ++
    (menu.valued ++ menu.switches).flatMap candidates ++
    menu.commands.map (fun entry => candidate entry.1 entry.2) ++ [Text.lit "\x7d"]

def script : List Text :=
  [[],
    Text.lit "use builtin;",
    Text.lit "use str;",
    [],
    Text.lit "set edit:completion:arg-completer[" ++ program ++ Text.lit "] = \x7b|@words|",
    Text.lit "    fn spaces \x7b|n|",
    Text.lit "        builtin:repeat $n ' ' | str:join ''",
    Text.lit "    \x7d",
    Text.lit "    fn cand \x7b|text desc|",
    Text.lit "        edit:complex-candidate $text &display=$text' '" ++
      Text.lit "(spaces (- 14 (wcswidth $text)))$desc",
    Text.lit "    \x7d",
    Text.lit "    var command = " ++ singleQuoted program,
    Text.lit "    for word $words[1..-1] \x7b",
    Text.lit "        if (str:has-prefix $word '-') \x7b",
    Text.lit "            break",
    Text.lit "        \x7d",
    Text.lit "        set command = $command';'$word",
    Text.lit "    \x7d",
    Text.lit "    var completions = ["] ++
  indented 8 (Menu.all.flatMap branch) ++
  [Text.lit "    ]",
    Text.lit "    $completions[$command]",
    Text.lit "\x7d"]

end RunLine.Command.Elvish
