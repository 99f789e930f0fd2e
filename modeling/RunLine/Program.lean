import RunLine.Command.Completions
import RunLine.Log.Filter
import RunLine.Log.Location
import RunLine.Quote.Report
import RunLine.Settings.Example
import RunLine.Settings.Load
import RunLine.Transcript
/-!
# A run of the program

From words, standard input and a host to what is printed, how the run ends, and the files after it.
The log is opened first, so it comes into being even for a command line that is refused.  A command
then changes no files, but for the one that writes the example.
-/

namespace RunLine

/-- What a failed run reports. -/
structure Report where
  error : Text
  cause : Option Text
  deriving DecidableEq, Repr

/-- How a run ends. -/
inductive Ending where
  | success
  /-- The run failed and says why. -/
  | failed (report : Report)
  /-- The command line was refused. -/
  | refused (interruption : Command.Interruption)
  /-- The log could not be set up. -/
  | aborted
  deriving DecidableEq, Repr

def Ending.code : Ending → Nat
  | success => 0
  | failed _ => 1
  | refused _ => 2
  | aborted => 101

/-- What comes out of a run, apart from files. -/
structure Outcome where
  stdout : Text
  /-- The warnings shown on standard error. -/
  warnings : List Warning
  ending : Ending
  deriving DecidableEq, Repr

namespace Outcome

/-- A run that printed something and went well. -/
def printed (stdout : Text) : Outcome := ⟨stdout, [], .success⟩

/-- A run that failed before anything was printed. -/
def failed (error : Text) : Outcome := ⟨[], [], .failed ⟨error, none⟩⟩

/-- The outcome of rewriting lines. -/
def ofTranscript (transcript : Transcript) : Outcome where
  stdout := transcript.output
  warnings := transcript.warnings
  ending :=
    match transcript.failure with
    | none => .success
    | some failure => .failed ⟨failure.message, failure.cause?⟩

/-- The outcome of a command line that is no command.  Asking for help or the version is none the
less a success. -/
def ofInterruption : Command.Interruption → Outcome
  | .help topic => printed topic.page
  | .version => printed Command.versionLine
  | interruption => ⟨[], [], .refused interruption⟩

/-- The outcome without the warnings that directives hold back. -/
def filtered (outcome : Outcome) (directives : List Log.Directive) : Outcome :=
  if Log.shows directives Log.headWarning then outcome else { outcome with warnings := [] }

end Outcome

def classReport (name : Text) : Except Unclassified BinaryClass → Text
  | .ok found => name ++ Text.lit ": " ++ found.name
  | .error error => name ++ Text.lit ": host (" ++ error.message ++ [')']

namespace Command

/-- The outcome of rewriting the lines given, or those of the standard input. -/
def transcript (sandbox : Sandbox) (lines : List Text) (json : Bool) (stdin : Bytes) :
    Transcript :=
  if lines.isEmpty then Transcript.ofInput sandbox (if json then .json else .plain) stdin
  else Transcript.ofScripts sandbox lines

/-- What is printed about names. -/
def classReports (classifier : Classifier) (names : List Text) : Text :=
  lines (names.map fun name => classReport name (classifier name))

/-- The outcome of a command that needs the settings. -/
def withSettings (host : Host) (overrides : Overrides) (use : Settings → Outcome) : Outcome :=
  match overrides.load host with
  | .error error => .failed error.message
  | .ok settings => use settings

/-- The outcome of a command, and the files after it. -/
def execute (host : Host) (stdin : Bytes) : Command → Outcome × Files
  | .rewrite given json overrides =>
      (withSettings host overrides fun settings =>
        .ofTranscript (transcript (.ofHost host settings) given json stdin), host.files)
  | .shield line => (.printed (lines [Quote.report line]), host.files)
  | .restore line quotes =>
      (match Quote.restoreFrom? quotes line with
        | none => .failed Quote.invalidQuotes
        | some restored => .printed (lines [restored]), host.files)
  | .classify names overrides =>
      (withSettings host overrides fun settings =>
        .printed (classReports (host.classify settings.searchBytes settings.osAbi) names),
        host.files)
  | .init =>
      match Example.create host with
      | (files, some refusal) => (.failed refusal.message, files)
      | (files, none) => (.printed (lines [Text.lit "Created " ++ Example.name]), files)
  | .completions shell => (.printed shell.completions, host.files)

end Command

/-- Where the log of a run on a host is, if it has a place. -/
def Host.logPath? (host : Host) : Option Path :=
  Log.path? host.stateHome host.ownDirectory? host.workingPath?

/-- The files after the log at a path was opened, and how the run ends if it cannot be. -/
def openLogAt (host : Host) (path : Path) : Files × Option Ending :=
  let directory := path.parent?.getD (Path.lit ".")
  match host.files.makeDirectories host.user host.directory directory with
  | (files, false) =>
      let error := Text.lit "Failed to create log directory at " ++ directory.display
      (files, some (.failed ⟨error, none⟩))
  | (files, true) =>
      match Log.split? path with
      | none => (files, some (.failed ⟨Log.invalidName, none⟩))
      | some location =>
          match files.touch host.user host.directory
            (location.directory.join (.ofText location.name)) with
          | .error _ => (files, some .aborted)
          | .ok files => (files, none)

/-- The files after the log was opened, and how the run ends if it cannot be.  A log that would lie
in the working directory has no place where that was removed. -/
def openLog (host : Host) : Files × Option Ending :=
  match host.logPath? with
  | none => (host.files, some (.failed ⟨FileError.notFound.message, none⟩))
  | some path => openLogAt host path

/-- A whole run. -/
def run (host : Host) (words : List Text) (stdin : Bytes) : Outcome × Files :=
  match openLog host with
  | (files, some ending) => (⟨[], [], ending⟩, files)
  | (files, none) =>
      match Log.directives? host.logFilter with
      | none => (⟨[], [], .aborted⟩, files)
      | some directives =>
          match Command.parse words with
          | .error interruption => (.ofInterruption interruption, files)
          | .ok command =>
              let (outcome, files) := command.execute { host with files } stdin
              (outcome.filtered directives, files)

end RunLine
