import RunLine.Command.Menu
/-!
# Completions for PowerShell

The words so far, between semicolons, choose the results to offer.  Operands are not completed.
-/

namespace RunLine.Command.PowerShell

/-- A text between single quotes, which are doubled inside. -/
def quoted (text : Text) : Text :=
  singleQuoted (Text.replace ['\''] (Text.lit "''") text)

/-- A result: the word to put in, the word to show, its kind and what is said about it. -/
def result (word shown kind about : Text) : Text :=
  Text.lit "    [CompletionResult]::new(" ++
    (Text.lit ", ").intercalate
      [singleQuoted word, singleQuoted shown, Text.lit "[CompletionResultType]::" ++ kind,
        quoted about] ++ [')']

/-- The results of an option.  Capital letters are shown with a blank behind them, because results
that are shown alike but for case count as one. -/
def results (choice : Choice) : List Text :=
  let kind := Text.lit "ParameterName"
  choice.forms.map fun form =>
    result form (if form.any Char.isUpper then form ++ [' '] else form) kind choice.about

def branch (menu : Menu) : List Text :=
  [singleQuoted (menu.joined [';']) ++ Text.lit " \x7b"] ++
    (menu.valued ++ menu.switches).flatMap results ++
    menu.commands.map (fun entry => result entry.1 entry.1 (Text.lit "ParameterValue") entry.2) ++
    [Text.lit "    break", Text.lit "\x7d"]

def script : List Text :=
  [[],
    Text.lit "using namespace System.Management.Automation",
    Text.lit "using namespace System.Management.Automation.Language",
    [],
    Text.lit "Register-ArgumentCompleter -Native -CommandName " ++ singleQuoted program ++
      Text.lit " -ScriptBlock \x7b",
    Text.lit "    param($wordToComplete, $commandAst, $cursorPosition)",
    [],
    Text.lit "    $commandElements = $commandAst.CommandElements",
    Text.lit "    $command = @(",
    Text.lit "        " ++ singleQuoted program,
    Text.lit "        for ($i = 1; $i -lt $commandElements.Count; $i++) \x7b",
    Text.lit "            $element = $commandElements[$i]",
    Text.lit "            if ($element -isnot [StringConstantExpressionAst] -or",
    Text.lit "                $element.StringConstantType -ne [StringConstantType]::BareWord -or",
    Text.lit "                $element.Value.StartsWith('-') -or",
    Text.lit "                $element.Value -eq $wordToComplete) \x7b",
    Text.lit "                break",
    Text.lit "        \x7d",
    Text.lit "        $element.Value",
    Text.lit "    \x7d) -join ';'",
    [],
    Text.lit "    $completions = @(switch ($command) \x7b"] ++
  indented 8 (Menu.all.flatMap branch) ++
  [Text.lit "    \x7d)",
    [],
    Text.lit "    $completions.Where\x7b $_.CompletionText -like \"$wordToComplete*\" \x7d |",
    Text.lit "        Sort-Object -Property ListItemText",
    Text.lit "\x7d"]

end RunLine.Command.PowerShell
