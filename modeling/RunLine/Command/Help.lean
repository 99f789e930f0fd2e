import RunLine.Command.Parse
/-!
# Help

The pages of help: what a command is for, how it is called, and its operands and options in two
columns.
-/

namespace RunLine.Command

def lines (texts : List Text) : Text := texts.flatMap (· ++ ['\n'])

/-- Rows of two columns, the first one as wide as its widest entry. -/
def columns (rows : List (Text × Text)) : List Text :=
  let width := rows.foldl (fun width row => max width row.1.length) 0
  rows.map fun row =>
    [' ', ' '] ++ row.1 ++ List.replicate (width - row.1.length + 2) ' ' ++ row.2

/-- A headed section of a page, set off from what is above it; an empty one is left out. -/
def headed (heading : Text) (rows : List (Text × Text)) : List Text :=
  if rows.isEmpty then [] else [] :: (heading ++ [':']) :: columns rows

def bracketed (opening closing : Char) (word : Text) : Text := opening :: (word ++ [closing])

/-- How an operand is written in a call. -/
def Operand.call (operand : Operand) : Text :=
  match operand.arity with
  | .one => bracketed '<' '>' operand.name
  | .some => bracketed '<' '>' operand.name ++ Text.lit "..."
  | .any => bracketed '[' ']' operand.name ++ Text.lit "..."

/-- How an option is written in a call. -/
def LongName.call (option : LongName) : Text :=
  let word := Text.lit "--" ++ option.name
  match option with
  | .value option => word ++ ' ' :: bracketed '<' '>' option.valueName
  | _ => word

/-- How an option is written in a list; the short form of help comes first. -/
def LongName.listed (option : LongName) : Text :=
  (if option = .help then Text.lit "-h, " else Text.lit "    ") ++ option.call

namespace Verb

/-- The options that must be given. -/
def required : Verb → List LongName
  | restore => [.value .quotes]
  | _ => []

/-- The parts of a call after the name of the command. -/
def callParts (verb : Verb) : List Text :=
  (if verb.options.any (· ∉ verb.required) then [Text.lit "[OPTIONS]"] else []) ++
    verb.required.map LongName.call ++ verb.operand?.toList.map Operand.call

def page (verb : Verb) : Text :=
  let operands := verb.operand?.toList.map fun operand =>
    let shells := Text.lit " [possible values: " ++
      (Text.lit ", ").intercalate (Shell.all.map Shell.name) ++ [']']
    (operand.call, operand.about ++ if verb = .completions then shells else [])
  let options := (verb.options ++ [LongName.help]).map fun option => (option.listed, option.about)
  lines <|
    [verb.about, [],
      [' '].intercalate (Text.lit "Usage:" :: program :: verb.name :: verb.callParts)] ++
    headed (Text.lit "Arguments") operands ++ headed (Text.lit "Options") options

end Verb

/-- What the word for help does. -/
def helpAbout : Text := Text.lit "Print this message or the help of the given subcommand(s)"

/-- All commands with what they do. -/
def commandEntries : List (Text × Text) :=
  Verb.all.map (fun verb => (verb.name, verb.about)) ++ [(helpWord, helpAbout)]

def programPage : Text :=
  let options := [(Text.lit "-h, --help", Text.lit "Print help"),
    (Text.lit "-V, --version", Text.lit "Print version")]
  lines <|
    [purpose, [], Text.lit "Usage: " ++ program ++ Text.lit " <COMMAND>"] ++
    headed (Text.lit "Commands") commandEntries ++ headed (Text.lit "Options") options

def helpPage : Text :=
  lines <|
    [helpAbout, [], Text.lit "Usage: " ++ program ++ Text.lit " help [COMMAND]..."] ++
    headed (Text.lit "Arguments")
      [(Text.lit "[COMMAND]...", Text.lit "Print help for the subcommand(s)")]

def Topic.page : Topic → Text
  | .program => programPage
  | .verb named => named.page
  | .help => helpPage

/-- What is said of a command line that is no command. -/
def Interruption.message : Interruption → Text
  | .help _ => Text.lit "help was asked for"
  | .version => Text.lit "the version was asked for"
  | .noCommand => Text.lit "a command is required"
  | .unknownCommand => Text.lit "unrecognized subcommand"
  | .unknownArgument => Text.lit "unexpected argument found"
  | .needlessValue => Text.lit "unexpected value for an option"
  | .missingValue => Text.lit "a value is required for an option but none was supplied"
  | .invalidShell => Text.lit "invalid value for a shell"
  | .repeated => Text.lit "an option cannot be used multiple times"
  | .conflict => Text.lit "an option cannot be used with operands"
  | .missingArgument => Text.lit "required arguments were not provided"

def versionLine : Text := lines [program ++ ' ' :: version]

end RunLine.Command
