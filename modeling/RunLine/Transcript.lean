import RunLine.Pipeline
import RunLine.Script
/-!
# Rewriting line by line

Lines come one after the other, and each is printed once it is rewritten.  The first line that holds
no script ends the run: what was printed stays, and nothing after it is read.
-/

namespace RunLine

/-- How a line of input states its script. -/
inductive LineForm where
  | plain
  | json
  deriving DecidableEq, Repr

/-- Why a line holds no script. -/
inductive LineError where
  | invalidJson
  | invalidInput (kind : InputKind)
  deriving DecidableEq, Repr

/-- A line without a script, counted from one. -/
structure LineFailure where
  number : Nat
  error : LineError
  deriving DecidableEq, Repr

/-- How a failure names its line. -/
def LineFailure.message (failure : LineFailure) : Text :=
  let line := Text.lit "Line " ++ Text.ofNat failure.number
  match failure.error with
  | .invalidJson => line ++ Text.lit ": invalid JSON"
  | .invalidInput _ => line

def LineFailure.cause? (failure : LineFailure) : Option Text :=
  match failure.error with
  | .invalidJson => none
  | .invalidInput kind => some kind.message

/-- What became of a sequence of lines. -/
structure Transcript where
  /-- Everything that was printed. -/
  output : Text
  warnings : List Warning
  failure : Option LineFailure
  deriving DecidableEq, Repr

namespace Transcript

def empty : Transcript := ⟨[], [], none⟩

/-- A rewritten script before the transcript of later lines. -/
def cons (sandbox : Sandbox) (script : Text) (later : Transcript) : Transcript where
  output := sandbox.rewrite script ++ '\n' :: later.output
  warnings := sandbox.warnings script ++ later.warnings
  failure := later.failure

def ofScripts (sandbox : Sandbox) (scripts : List Text) : Transcript :=
  scripts.foldr (cons sandbox) empty

/-- A line without the carriage return that may end it. -/
def withoutReturn (line : Bytes) : Bytes := if line.getLast? = some 13 then line.dropLast else line

/-- The lines of an input.  The last line need not be ended, and nothing follows the last end. -/
def inputLines (input : Bytes) : List Bytes :=
  let pieces := input.splitOn 10
  (if pieces.getLast? = some [] then pieces.dropLast else pieces).map withoutReturn

/-- The script of a line. -/
def readLine (form : LineForm) (line : Bytes) : Except LineError Text :=
  match form with
  | .plain => (scriptOfBytes line).mapError .invalidInput
  | .json =>
      match (Utf8.decode? line).bind Json.read? with
      | none => .error .invalidJson
      | some value => value.script.mapError .invalidInput

/-- The transcript of raw lines, the first of which has a number. -/
def ofLines (sandbox : Sandbox) (form : LineForm) : Nat → List Bytes → Transcript
  | _, [] => empty
  | number, line :: rest =>
      match readLine form line with
      | .error error => ⟨[], [], some ⟨number, error⟩⟩
      | .ok script => cons sandbox script (ofLines sandbox form (number + 1) rest)

/-- The transcript of an input. -/
def ofInput (sandbox : Sandbox) (form : LineForm) (input : Bytes) : Transcript :=
  ofLines sandbox form 1 (inputLines input)

end Transcript

end RunLine
