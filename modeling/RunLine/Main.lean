import RunLine.Program
/-!
# The program

The layer between a run and the machine: it surveys the files that a run can ask about, lets the run
take place on what was found, prints what comes out and makes the new files.  The machine says of an
entry not who may do what with it, and of a link not what is written in it.  So the user counts as
one who may do anything, every regular file as executable, a link as one to the place where it ends,
and one that ends nowhere as nothing at all.
-/

namespace RunLine

/-- The permissions that every entry is taken to have. -/
def surveyedPermissions : Permissions := .ofMode 0o755

/-- A working directory that was removed.  Its name is not known any more. -/
def vanished : Place := [orphanName []]

/-- The place of an absolute path without links. -/
def placeOf (path : Path) : Place :=
  path.components.foldl (fun place component =>
    match component with
    | .name name => name :: place
    | _ => place) []

/-- The beginning of a file, or all of it. -/
def contentAt (path : String) (limit : Option USize) : IO (Option Bytes) := do
  try
    match limit with
    | none => return some (← IO.FS.readBinFile path).toList
    | some size =>
        IO.FS.withFile path .read fun handle => return some (← handle.read size).toList
  catch _ => return none

/-- What the machine finds at a place. -/
def nodeAt (limit : Option USize) (place : Place) : IO (Option FileNode) := do
  match (Host.pathOf place).toText? with
  | none => return none
  | some text =>
      let path := String.ofList text
      try
        let found ← ((← IO.FS.realPath "/") / path).symlinkMetadata
        match found.type with
        | .dir => return some (.directory surveyedPermissions)
        | .file => return some (.file surveyedPermissions (← contentAt path limit))
        | .other => return some (.device surveyedPermissions)
        | .symlink => return some (.link (.lit (toString (← IO.FS.realPath path))))
      catch _ => return none

/-- The tree with what is found at a place and above it. -/
def settle (limit : Option USize) (files : Files) : Place → IO Files
  | [] => return files
  | name :: above => do
      let files ← settle limit files above
      if (files.node? (name :: above)).isSome then return files
      else
        match ← nodeAt limit (name :: above) with
        | none => return files
        | some node => return files.put (name :: above) node

/-- The tree with what is found along the steps of a walk. -/
def survey (limit : Option USize) (files : Files) (here : Place) :
    List Path.Step → IO Files
  | [] => return files
  | .root :: rest => survey limit files [] rest
  | .stay :: rest | .close :: rest => survey limit files here rest
  | .up :: rest => survey limit files here.tail rest
  | .name name :: rest => do
      let place := name :: here
      let files ← settle limit files place
      match files.node? place with
      | some (.link target) =>
          let target := placeOf target
          survey limit (← settle limit files target) target rest
      | _ => survey limit files place rest

/-- The host with what is found along paths. -/
def Host.surveyed (host : Host) (limit : Option USize) (paths : List Path) : IO Host := do
  let mut files := host.files
  for path in paths do
    files ← survey limit files host.directory path.steps
  return { host with files }

/-- The files that may hold configuration. -/
def Host.configurationPaths (host : Host) : List Path :=
  let working := host.workingPath?.getD ⟨[]⟩
  host.ownDirectory?.toList.flatMap Layer.globalPaths ++
    working.ancestors.flatMap fun directory => Layer.projectNames.map directory.join

/-- How much is read of a file of which only the beginning matters. -/
def headerSize : USize := Elf.Ident.length.toUSize

def tokens (script : Text) : List Text :=
  ((Quote.shield script).text.splitOn '|').flatMap (·.splitOn ' ')

/-- The names that a command asks about, and the overrides under which it does. -/
def Command.asks (stdin : Bytes) : Command → Option (List Text × Overrides)
  | .rewrite given json overrides =>
      let form := if json then LineForm.json else .plain
      let read := (Transcript.inputLines stdin).filterMap fun line =>
        (Transcript.readLine form line).toOption
      some ((if given.isEmpty then read else given).flatMap tokens, overrides)
  | .classify names overrides => some (names, overrides)
  | _ => none

/-- The files that names may stand for. -/
def Host.namedPaths (host : Host) (settings : Settings) (names : List Text) : List Path :=
  let working := host.workingPath?.getD (.lit ".")
  names.flatMap fun name =>
    working.join (.ofText name) ::
      host.candidates (settings.searchBytes.or host.searchPath) (.ofText name) working

def Command.readsInput : Command → Bool
  | .rewrite given _ _ => given.isEmpty
  | _ => false

/-- All that is left of a stream. -/
partial def readRest (stream : IO.FS.Stream) (read : ByteArray) : IO ByteArray := do
  let piece ← stream.read 65536
  if piece.isEmpty then return read else readRest stream (read ++ piece)

/-- The user's own directory as it is on record: the sixth field of the line that has the number of
the user for its third one. -/
def accountDirectory : IO (Option Path) := do
  try
    let status ← IO.FS.lines "/proc/self/status"
    let users := status.toList.filterMap fun line =>
      match line.toList.splitOn '\t' with
      | ['U', 'i', 'd', ':'] :: user :: _ => some user
      | _ => none
    let accounts ← IO.FS.lines "/etc/passwd"
    return accounts.toList.findSome? fun line =>
      match line.toList.splitOn ':' with
      | _ :: _ :: user :: _ :: _ :: home :: _ =>
          if user ∈ users.head? then some (.ofText home) else none
      | _ => none
  catch _ => return none

/-- The surroundings of the process, before anything is surveyed. -/
def surroundings : IO Host := do
  let bytes (name : String) : IO (Option Bytes) := return (← IO.getEnv name).map (·.toUTF8.toList)
  let (directory, files) ←
    try
      let directory := placeOf (.lit (toString (← IO.currentDir)))
      pure (directory, ← settle none .empty directory)
    catch _ => pure (vanished, Files.empty.put vanished (.directory surveyedPermissions))
  return {
    files
    user := .root
    room := none
    directory
    home := ((← bytes "HOME").filter fun home => !home.isEmpty).map .mk
    account := ← accountDirectory
    searchPath := ← bytes "PATH"
    stateHome := ← bytes "XDG_STATE_HOME"
    logFilter := (← IO.getEnv "RUST_LOG").map (·.toList) }

/-- The host with all that a command may ask about. -/
def Host.prepared (host : Host) (command : Command) (stdin : Bytes) : IO Host := do
  match command.asks stdin with
  | none => return host
  | some (names, overrides) =>
      match overrides.load host with
      | .error _ => return host
      | .ok settings => host.surveyed (some headerSize) (host.namedPaths settings names)

/-- Makes what a run added to the files, what lies nearer to the root first. -/
def makeChanges (before after : Files) : IO Unit := do
  let changed := after.toList.filter fun entry => before.node? entry.1 != some entry.2
  for (place, node) in changed.mergeSort fun left right => left.1.length ≤ right.1.length do
    match (Host.pathOf place).toText?, node with
    | some path, .directory _ => IO.FS.createDir (String.ofList path)
    | some path, .file _ (some content) => IO.FS.writeBinFile (String.ofList path) ⟨content.toArray⟩
    | _, _ => pure ()

/-- What a run says on the standard error. -/
def Outcome.remarks (outcome : Outcome) : Text :=
  let warnings := outcome.warnings.flatMap fun warning =>
    Text.lit " WARN " ++ Warning.message ++ Text.lit " token=" ++ warning.token ++
      Text.lit " error=" ++ warning.error.message ++ ['\n']
  let ending :=
    match outcome.ending with
    | .success => []
    | .failed report =>
        Text.lit "Error: " ++ report.error ++ ['\n'] ++
          match report.cause with
          | none => []
          | some cause => Text.lit "\nCaused by:\n    " ++ cause ++ ['\n']
    | .refused interruption => Text.lit "error: " ++ interruption.message ++ ['\n']
    | .aborted => Text.lit "the log could not be set up\n"
  warnings ++ ending

end RunLine

open RunLine in
def main (words : List String) : IO UInt32 := do
  let host ← surroundings
  let host ← host.surveyed none host.configurationPaths
  let host ← host.surveyed (some headerSize) host.logPath?.toList
  let words := words.map (·.toList)
  let (host, stdin) ←
    match Command.parse words with
    | .error _ => pure (host, [])
    | .ok command => do
        let stdin ←
          if command.readsInput then
            pure (← readRest (← IO.getStdin) .empty).toList
          else pure []
        pure (← host.prepared command stdin, stdin)
  let (outcome, files) := run host words stdin
  makeChanges host.files files
  IO.print (String.ofList outcome.stdout)
  IO.eprint (String.ofList outcome.remarks)
  return outcome.ending.code.toUInt32
