import RunLine.Path
/-!
# Where the log is

The log lies under the directory for state files: the one that the environment names, or else the
usual one under the user's own directory.  Where there is neither, the log lies in the working
directory.  To be opened, its path is parted into a directory and a file name.
-/

namespace RunLine.Log

def fileName : Path := Path.lit "lit-sandbox.log"

def under (stateDirectory : Path) : Path :=
  (stateDirectory.join (Path.lit "lit-sandbox")).join fileName

/-- The directory for state files.  A name that is empty or no text counts as none. -/
def stateDirectory? (named : Option Bytes) (home : Option Path) : Option Path :=
  match named.filter fun bytes => !bytes.isEmpty && (Utf8.decode? bytes).isSome with
  | some bytes => some ⟨bytes⟩
  | none => home.map fun home => (home.join (Path.lit ".local")).join (Path.lit "state")

/-- The path of the log.  Without a directory for state files there is none where the working
directory was removed. -/
def path? (named : Option Bytes) (home working : Option Path) : Option Path :=
  match stateDirectory? named home with
  | some directory => some (under directory)
  | none => working.map (·.join fileName)

/-- A path in two parts. -/
structure Location where
  directory : Path
  name : Text
  deriving DecidableEq, Repr

/-- The parts of a path whose last component is a name and a text. -/
def split? (path : Path) : Option Location := do
  let name ← path.fileName?
  let text ← Utf8.decode? name
  some ⟨path.parent?.getD (Path.lit "."), text⟩

/-- What is said of a path that has no such parts. -/
def invalidName : Text := Text.lit "Invalid log file name"

end RunLine.Log
