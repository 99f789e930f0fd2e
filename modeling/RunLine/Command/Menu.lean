import RunLine.Command.Help
import RunLine.Text.Replace
/-!
# Menus

What there is to choose from at a point of the command line: options, an operand, and commands, each
with what help says about it.  The word for help has a menu of all commands, and behind it every
command has a menu with nothing in it.
-/

namespace RunLine.Command

/-- An option in a menu. -/
structure Choice where
  /-- Its one-letter form. -/
  short : Option Char
  name : Text
  /-- The word for its value, if it takes one. -/
  value : Option Text
  about : Text
  deriving DecidableEq, Repr

/-- What there is to choose from after some words. -/
structure Menu where
  /-- The words that lead there, after the name of the program. -/
  path : List Text
  choices : List Choice
  operand : Option Operand
  /-- The words that the operand is one of; none where anything is allowed. -/
  values : List Text
  /-- The commands, with what they do. -/
  commands : List (Text × Text)
  deriving DecidableEq, Repr

/-- How an option appears in a menu. -/
def LongName.choice (option : LongName) : Choice where
  short := if option = .help then some 'h' else none
  name := option.name
  value :=
    match option with
    | .value option => some option.valueName
    | _ => none
  about := option.about

def Verb.menu (verb : Verb) : Menu where
  path := [verb.name]
  choices := (verb.options ++ [LongName.help]).map LongName.choice
  operand := verb.operand?
  values := if verb = .completions then Shell.all.map Shell.name else []
  commands := []

namespace Menu

def first : Menu where
  path := []
  choices :=
    [LongName.help.choice, ⟨some 'V', Text.lit "version", none, Text.lit "Print version"⟩]
  operand := none
  values := []
  commands := commandEntries

def help : Menu := ⟨[helpWord], [], none, [], commandEntries⟩

def behindHelp : List Menu :=
  commandEntries.map fun entry => ⟨[helpWord, entry.1], [], none, [], []⟩

def ofVerbs : List Menu := Verb.all.map Verb.menu

/-- All menus, in the order of their commands. -/
def all : List Menu := first :: ofVerbs ++ help :: behindHelp

/-- The options that take a value. -/
def valued (menu : Menu) : List Choice := menu.choices.filter (·.value.isSome)

/-- The options that take none. -/
def switches (menu : Menu) : List Choice := menu.choices.filter (·.value.isNone)

/-- The words of a menu with the name of the program in front, joined. -/
def joined (separator : Text) (menu : Menu) : Text :=
  separator.intercalate (program :: menu.path)

/-- Where the next word stands on the command line; the name of the program stands first. -/
def position (menu : Menu) : Nat := menu.path.length + 1

end Menu

/-- The forms of an option, the one-letter form first. -/
def Choice.forms (choice : Choice) : List Text :=
  choice.short.toList.map (['-', ·]) ++ [Text.lit "--" ++ choice.name]

/-- Words with blanks between them. -/
def spaced (words : List Text) : Text := [' '].intercalate words

def singleQuoted (text : Text) : Text := bracketed '\'' '\'' text

def doubleQuoted (text : Text) : Text := bracketed '"' '"' text

/-- Lines that are set in by so many columns. -/
def indented (width : Nat) (texts : List Text) : List Text :=
  texts.map (List.replicate width ' ' ++ ·)

end RunLine.Command
