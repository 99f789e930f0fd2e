import RunLine.Classification
import RunLine.Elf
/-!
# Searching commands

Which file a command head stands for.  A regular file under the working directory wins outright.
Otherwise an absolute name stands for itself, a name of several components is looked up under the
working directory, and a bare name is looked up in the entries of a search path in order; what is
found has to be executable.
-/

namespace RunLine

/-- The byte between the entries of a search path. -/
def entrySeparator : UInt8 := 58

/-- The directory that an entry of a search path stands for.  An entry of which the first component
is a tilde starts in the user's own directory, as the environment writes that; any other one is
relative to the directory that the search starts from. -/
def entryDirectory (home : Option Path) (directory entry : Path) : Path :=
  match home, entry.components with
  | some home, .name [126] :: rest => home.extend rest
  | _, _ => entry.under directory

namespace Host

/-- The files that a bare name may stand for, by the entries of a search path. -/
def listed (host : Host) (searchPath : Bytes) (name directory : Path) : List Path :=
  (searchPath.splitOn entrySeparator).map fun entry =>
    (entryDirectory host.home directory ⟨entry⟩).join name

/-- The files that a name may stand for, in the order in which they are tried.  Without a search
path a bare name stands for nothing. -/
def candidates (host : Host) (searchPath : Option Bytes) (name directory : Path) : List Path :=
  if name.isAbsolute then [name]
  else if 1 < name.components.length then [directory.extend name.properComponents]
  else
    match searchPath with
    | none => []
    | some list => host.listed list name directory

/-- The file that a name stands for, searched from a directory.  The search path of the environment
serves where none is given. -/
def locateFrom (host : Host) (searchPath : Option Bytes) (name : Text) (directory : Path) :
    Except Unclassified Path :=
  let direct := directory.join (.ofText name)
  if host.isFile direct then .ok direct
  else
    match (host.candidates (searchPath.or host.searchPath) (.ofText name) directory).find?
        host.isExecutable with
    | none => .error (.notFound name)
    | some path => .ok path

/-- The file that a name stands for, searched from the working directory. -/
def locate (host : Host) (searchPath : Option Bytes) (name : Text) : Except Unclassified Path :=
  host.locateFrom searchPath name (host.workingPath?.getD (Path.lit "."))

/-- The class of the file that a name stands for: sandboxed exactly if its identification carries
the OS/ABI number. -/
def classify (host : Host) (searchPath : Option Bytes) (osAbi : UInt8) : Classifier := fun name => do
  let path ← host.locate searchPath name
  let ident ← Elf.Ident.read host path
  if ident.osAbi = osAbi then .ok .sandboxed else .ok .host

end Host

end RunLine
