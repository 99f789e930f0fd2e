import RunLine.Proofs.Files.Places
import RunLine.Proofs.Settings.Nearest
import RunLine.Program

/-!
# Writing the example

The example is written unless its name leads to something.  What is written is found there from then
on, and as the project file of the working directory it sets nothing: only the global file is in
force.  The project file is looked for by its absolute path and then read, so this holds as long as
the system accepts a path of that length, the user may pass all directories on the way, and the user
is not kept from reading what the user has made.
-/

namespace RunLine

/-! ## What is written is found -/

/-- The user may read the files that the user makes. -/
def User.ReadsOwn (user : User) : Prop := user.privileged = true ∨ user.mask.testBit 8 = false

theorem User.ReadsOwn.permits_newFile {user : User} (readsOwn : user.ReadsOwn) (content : Bytes) :
    (Files.newFile user content).permits user .read = true := by
  have asked : Files.newFileMode.testBit 8 = true := by decide
  have allowed : (user.made Files.newFileMode).allows user .read = !user.mask.testBit 8 := by
    simp [Permissions.allows, Permissions.shift, Access.position, User.made, Nat.testBit_xor,
      Nat.testBit_and, asked]
  rw [Files.newFile, FileNode.permits, allowed]
  rcases readsOwn with privileged | notHeldBack
  · simp [privileged]
  · simp [notHeldBack]

namespace Files

variable {files after later : Files} {user : User} {place directory : Place} {path : Path}
variable {node : FileNode} {new : Place → FileNode → Prop} {content : Bytes}

theorem read_of_find (readsOwn : user.ReadsOwn)
    (found : files.find user directory path = .ok (place, newFile user content)) :
    files.read user directory path = .ok content := by
  have permitted : FileNode.permits user .read
      (.file (user.made newFileMode) (some content)) = true := readsOwn.permits_newFile content
  rw [read, found]
  simp [bind, Except.bind, newFile, FileNode.read, permitted]

theorem find_congr {here : Place} {other : Path}
    (same : files.walk user .target directory path = files.walk user .target here other) :
    files.find user directory path = files.find user here other := by
  rw [find, find, same]

end Files

/-! ## The working directory -/

namespace Host

open Layer

variable {host : Host} {name : FileName}

/-- The absolute path of a name in the working directory, if there is one at all, is not too long, and
the user may look for names in all directories on it. -/
def InReach (host : Host) (name : Path) : Prop :=
  ∀ directory, host.workingPath? = some directory →
    (directory.join name).bytes.length ≤ Files.pathLimit ∧
      host.files.Searchable host.user host.directory

/-- A name leads to the same under the path where searches start and in the working directory. -/
theorem walk_startOf (placed : host.Placed) (isEntryName : Files.IsEntryName name)
    (inReach : host.InReach ⟨name⟩) :
    host.files.walk host.user .target host.directory ((startOf host).join ⟨name⟩) =
      host.files.walk host.user .target host.directory ⟨name⟩ := by
  cases orphan : host.directory.isOrphan with
  | true =>
      have nowhere : startOf host = ⟨[]⟩ := by
        rw [startOf, workingPath?, orphan]
        rfl
      rw [nowhere, Path.join, isEntryName.isName.not_isAbsolute]
      rfl
  | false =>
      have isPath : host.workingPath? = some (pathOf host.directory) := by
        rw [workingPath?, orphan, placed.stands.isDirectory]
        rfl
      have spelled := placed.spelled orphan
      obtain ⟨fits, searchable⟩ := inReach _ isPath
      rw [startOf, isPath, Option.getD_some]
      rw [Files.join_pathOf isEntryName.isName spelled] at fits ⊢
      exact Files.walk_pathOf placed.stands searchable
        (List.forall_mem_cons.mpr ⟨isEntryName, spelled⟩) fits host.directory

end Host

/-! ## The example as a project file -/

namespace Example

open Layer

variable {host : Host}

theorem isEntryName_name : Files.IsEntryName (Path.ofText name).bytes := by decide

/-- The example sets nothing. -/
theorem parse?_text : parse? text = some empty := by decide +kernel

/-- The example is found by its name. -/
def FoundIn (host : Host) : Prop :=
  ∃ place, host.files.find host.user host.directory (.ofText name) =
    .ok (place, Files.newFile host.user (Utf8.encode text))

theorem FoundIn.pathExists (foundIn : FoundIn host) : host.pathExists (.ofText name) = true := by
  obtain ⟨place, found⟩ := foundIn
  rw [Host.pathExists, Host.found?, Files.found?_of_find found]
  rfl

/-- The example is the project file.  It sets nothing, so what is configured is what the global file
states, if there is one. -/
structure GlobalAlone (host : Host) : Prop where
  chosen : projectFile? host (startOf host) = some (preferredIn (startOf host))
  project : loadChosen host (projectFile? host (startOf host)) = .ok empty
  load : Layer.load host = loadChosen host (globalFile? host)
  fails : (∃ error, Layer.load host = .error error) ↔
    ∃ path, globalFile? host = some path ∧ ∀ layer, ¬ StatedIn host path layer

/-- What holds once the example was written among some files, whatever has been added since.  The
regular files are as they were, and the example is there and will not be written again. -/
structure InPlace (before : Files) (host : Host) : Prop where
  kept : ∀ place permissions content, before.node? place = some (.file permissions content) →
    host.files.node? place = some (.file permissions content)
  readText : host.user.ReadsOwn → host.readText (.ofText name) = .ok text
  again : ∀ stdin, Command.init.execute host stdin =
    (.failed Refusal.alreadyExists.message, host.files)
  globalAlone : host.user.ReadsOwn → host.InReach (.ofText name) → GlobalAlone host

/-- A project file that sets nothing leaves the global file in force. -/
theorem load_of_project (project : loadChosen host (projectFile? host (startOf host)) = .ok empty) :
    Layer.load host = loadChosen host (globalFile? host) := by
  rw [load_eq_bind, project]
  cases loadChosen host (globalFile? host) with
  | error cause => rfl
  | ok lower => rfl

theorem loadChosen_globalFile?_fails_iff :
    (∃ error, loadChosen host (globalFile? host) = .error error) ↔
      ∃ path, globalFile? host = some path ∧ ∀ layer, ¬ StatedIn host path layer := by
  have succeeds : (∃ layer, loadChosen host (globalFile? host) = .ok layer) ↔
      ∀ path, globalFile? host = some path → ∃ layer, StatedIn host path layer := by
    simp only [loadChosen_eq_ok_iff fun _ => pathExists_of_globalFile?, exists_contributed_iff]
  have fails : (∃ error, loadChosen host (globalFile? host) = .error error) ↔
      ¬ ∃ layer, loadChosen host (globalFile? host) = .ok layer := by
    cases loadChosen host (globalFile? host) with
    | error cause => simp
    | ok layer => simp
  rw [fails, succeeds]
  simp only [not_forall, not_exists, exists_prop]

/-- Where the example is found, can be read and is in reach, only the global file is in force. -/
theorem FoundIn.globalAlone (foundIn : FoundIn host) (placed : host.Placed)
    (readsOwn : host.user.ReadsOwn) (inReach : host.InReach (.ofText name)) :
    GlobalAlone host := by
  obtain ⟨place, found⟩ := foundIn
  have same := Files.find_congr (Host.walk_startOf placed isEntryName_name inReach)
  have foundToo := same.trans found
  have isFile : host.isFile (preferredIn (startOf host)) = true := by
    rw [Host.isFile, Host.found?]
    exact congrArg (Option.any FileNode.isFile) (Files.found?_of_find foundToo)
  have chosen : projectFile? host (startOf host) = some (preferredIn (startOf host)) :=
    projectFile?_eq_some_iff.mpr ⟨0, startOf host, rfl, .preferred isFile,
      fun fewer less => absurd less (Nat.not_lt_zero fewer)⟩
  have present : ∀ path, projectFile? host (startOf host) = some path →
      host.pathExists path = true := fun path isChosen =>
    pathExists_of_isFile (isFile_of_projectFile? isChosen)
  have project : loadChosen host (projectFile? host (startOf host)) = .ok empty := by
    rw [loadChosen_eq_ok_iff present, chosen]
    exact ⟨text, Files.read_of_find readsOwn foundToo, parse?_text⟩
  constructor
  case chosen => exact chosen
  case project => exact project
  case load => exact load_of_project project
  case fails =>
    rw [load_of_project project]
    exact loadChosen_globalFile?_fails_iff

end Example

/-- A name so long that no name of a project file fits under seventeen directories of that name. -/
def FileName.long : FileName := List.replicate 239 97

/-- A user without privileges. -/
def User.guest : User := ⟨1000, 1000, [], 0o022, false⟩

/-- A working directory of a guest in which the name of the example is a link into a directory that
only the root user may look into. -/
def Host.hidden : Host :=
  { Host.sample with
    files := Files.empty
      |>.put (Place.lit ["shut"]) (.directory (.ofMode 0o700))
      |>.put (Place.lit ["shut", "made"]) (.openText "")
      |>.put (Place.lit ["work"]) (.directory ⟨1000, 1000, 0o755⟩)
      |>.put (Place.lit ["work", ".lit-sandbox.yaml"]) (.link (Path.lit "/shut/made"))
    user := .guest }

/-- The host while the storage is full. -/
def Host.full : Host := { Host.sample with room := some 0 }

end RunLine
