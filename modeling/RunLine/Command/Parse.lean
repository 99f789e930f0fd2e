import RunLine.Command.Usage
/-!
# Reading the command line

The first word is a command; then options and operands follow in any order.  An option takes its
value after an equals sign or from the next word.  A word that waits for its turn is judged late:
when the next option, operand or end comes.  So of two faults the one that is settled first is
reported.  After two dashes alone every word is an operand.
-/

namespace RunLine.Command

/-- What a page of help is about. -/
inductive Topic where
  | program
  | verb (verb : Verb)
  | help
  deriving DecidableEq, Repr

/-- Why a command line is no command. -/
inductive Interruption where
  /-- Help is asked for. -/
  | help (topic : Topic)
  /-- The version is asked for. -/
  | version
  /-- There is no command. -/
  | noCommand
  /-- There is no such command. -/
  | unknownCommand
  /-- There is no such option, or there are too many operands. -/
  | unknownArgument
  /-- An option that takes no value has one. -/
  | needlessValue
  /-- An option that takes a value has none. -/
  | missingValue
  /-- There is no such shell. -/
  | invalidShell
  /-- An option is given twice. -/
  | repeated
  /-- Two things exclude each other. -/
  | conflict
  /-- An operand or an option has to be given. -/
  | missingArgument
  deriving DecidableEq, Repr

/-- What was given after the command. -/
structure Given where
  json : Bool
  launcher : Option Text
  searchPath : Option Text
  quotes : Option Text
  operands : List Text
  deriving DecidableEq, Repr

namespace Given

def nothing : Given := ⟨false, none, none, none, []⟩

def value? (given : Given) : ValueOption → Option Text
  | .launcher => given.launcher
  | .searchPath => given.searchPath
  | .quotes => given.quotes

/-- What was given together with an option. -/
def withValue (given : Given) (option : ValueOption) (value : Text) : Given :=
  match option with
  | .launcher => { given with launcher := some value }
  | .searchPath => { given with searchPath := some value }
  | .quotes => { given with quotes := some value }

/-- What was given together with an option, which must not be there yet. -/
def addValue (given : Given) (option : ValueOption) (value : Text) : Except Interruption Given :=
  if (given.value? option).isSome then .error .repeated else .ok (given.withValue option value)

/-- What was given together with the mark for JSON, which must not be there yet. -/
def addJson (given : Given) : Except Interruption Given :=
  if given.json then .error .repeated else .ok { given with json := true }

/-- What was given together with an operand. -/
def addOperand (given : Given) (operand : Text) : Given :=
  { given with operands := given.operands ++ [operand] }

/-- The overrides among what was given. -/
def overrides (given : Given) : Overrides := ⟨given.launcher, given.searchPath⟩

end Given

/-- What waits to be judged. -/
inductive Pending where
  | nothing
  /-- An option, with its value as soon as that is read. -/
  | option (option : ValueOption) (value : Option Text)
  | operand (text : Text)
  deriving DecidableEq, Repr

/-- A command line in the middle of being read. -/
structure Reading where
  verb : Verb
  given : Given
  pending : Pending
  /-- Whether every further word is an operand. -/
  escaped : Bool
  deriving DecidableEq, Repr

namespace Reading

/-- A command without anything after it. -/
def start (verb : Verb) : Reading := ⟨verb, .nothing, .nothing, false⟩

/-- What was given, when nothing waits any more. -/
def settle (reading : Reading) : Except Interruption Given :=
  match reading.pending with
  | .nothing => .ok reading.given
  | .option _ none => .error .missingValue
  | .option option (some value) => reading.given.addValue option value
  | .operand text =>
      if reading.verb = .completions ∧ (Shell.ofText? text).isNone then .error .invalidShell
      else .ok (reading.given.addOperand text)

/-- The reading with something new waiting, and the rest settled. -/
def await (reading : Reading) (pending : Pending) : Except Interruption Reading := do
  let given ← reading.settle
  .ok { reading with given, pending }

/-- How many operands there are, one that waits included. -/
def operandCount (reading : Reading) : Nat :=
  reading.given.operands.length +
    match reading.pending with
    | .operand _ => 1
    | _ => 0

def takesOperand (reading : Reading) : Bool :=
  match reading.verb.operand? with
  | none => false
  | some operand => operand.arity != .one || reading.operandCount == 0

def readOperand (reading : Reading) (word : Text) : Except Interruption Reading :=
  if reading.takesOperand then reading.await (.operand word) else .error .unknownArgument

/-- A word after two dashes, split at its first equals sign. -/
def splitLong (word : Text) : Text × Option Text :=
  match word.dropWhile (· ≠ '=') with
  | [] => (word, none)
  | _ :: value => (word.takeWhile (· ≠ '='), some value)

/-- A word that starts with two dashes, without them. -/
def readLong (reading : Reading) (word : Text) : Except Interruption Reading :=
  let (name, attached) := splitLong word
  match reading.verb.option? name, attached with
  | none, _ => .error .unknownArgument
  | some (.value option), some value => do
      let given ← reading.settle
      let given ← given.addValue option value
      .ok { reading with given, pending := .nothing }
  | some (.value option), none => reading.await (.option option none)
  | some _, some _ => .error .needlessValue
  | some .json, none => do
      let given ← reading.settle
      let given ← given.addJson
      .ok { reading with given, pending := .nothing }
  | some .help, none => do
      let _ ← reading.settle
      .error (.help (.verb reading.verb))

/-- A word that starts with one dash, without it. -/
def readShort (reading : Reading) (word : Text) : Except Interruption Reading :=
  if word.head? = some 'h' then do
    let _ ← reading.settle
    .error (.help (.verb reading.verb))
  else .error .unknownArgument

/-- A word that stands for itself: the value that an option waits for, or an operand. -/
def readWord (reading : Reading) (word : Text) : Except Interruption Reading :=
  match reading.pending with
  | .option option none => .ok { reading with pending := .option option (some word) }
  | _ => reading.readOperand word

/-- One word. -/
def step (reading : Reading) (word : Text) : Except Interruption Reading :=
  if reading.escaped then reading.readOperand word
  else
    match word with
    | ['-', '-'] => .ok { reading with escaped := true }
    | '-' :: '-' :: long => reading.readLong long
    | '-' :: letter :: short => reading.readShort (letter :: short)
    | _ => reading.readWord word

/-- The command that was given, provided nothing is missing and nothing excludes another. -/
def finish (reading : Reading) : Except Interruption Command := do
  let given ← reading.settle
  match reading.verb with
  | .rewrite =>
      if given.json && !given.operands.isEmpty then .error .conflict
      else .ok (.rewrite given.operands given.json given.overrides)
  | .classify =>
      if given.operands.isEmpty then .error .missingArgument
      else .ok (.classify given.operands given.overrides)
  | .shield =>
      match given.operands with
      | line :: _ => .ok (.shield line)
      | [] => .error .missingArgument
  | .restore =>
      match given.operands, given.quotes with
      | line :: _, some quotes => .ok (.restore line quotes)
      | _, _ => .error .missingArgument
  | .init => .ok .init
  | .completions =>
      match given.operands.head?.bind Shell.ofText? with
      | some shell => .ok (.completions shell)
      | none => .error .missingArgument

end Reading

/-- The word that asks for help where a command is expected. -/
def helpWord : Text := Text.lit "help"

/-- The page that words after the word for help ask for. -/
def helpTopic : List Text → Interruption
  | [] => .help .program
  | [word] =>
      if word = helpWord then .help .help
      else
        match Verb.ofText? word with
        | some verb => .help (.verb verb)
        | none => .unknownCommand
  | _ => .unknownCommand

/-- A word with two dashes where a command is expected, without the dashes. -/
def programOption (word : Text) : Interruption :=
  let (name, attached) := Reading.splitLong word
  if name = helpWord then if attached.isSome then .needlessValue else .help .program
  else if name = Text.lit "version" then if attached.isSome then .needlessValue else .version
  else .unknownArgument

/-- The words from two dashes alone on, where a command is expected. -/
def afterEscape : List Text → Interruption
  | [] => .noCommand
  | word :: _ =>
      if word = helpWord ∨ (Verb.ofText? word).isSome then .unknownArgument else .unknownCommand

/-- The command that words ask for. -/
def parse : List Text → Except Interruption Command
  | [] => .error .noCommand
  | word :: rest =>
      match Verb.ofText? word with
      | some verb => do
          let reading ← rest.foldlM Reading.step (Reading.start verb)
          reading.finish
      | none =>
          if word = helpWord then .error (helpTopic rest)
          else
            match word with
            | ['-', '-'] => .error (afterEscape rest)
            | '-' :: '-' :: long => .error (programOption long)
            | '-' :: letter :: _ =>
                if letter = 'h' then .error (.help .program)
                else if letter = 'V' then .error .version
                else .error .unknownArgument
            | _ => .error .unknownCommand

end RunLine.Command
