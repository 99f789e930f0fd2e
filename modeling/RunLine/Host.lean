import RunLine.Files.Walk
/-!
# The host

What a run of the program finds around it: the files, the working directory and the variables of the
environment that matter.  The working directory is a place; it may have been removed meanwhile, and
then it has no path, although the way up from it still leads out.
-/

namespace RunLine

/-- The surroundings of a run. -/
structure Host where
  files : Files
  user : User
  /-- How many bytes a new file may have before the storage is full, if that may happen. -/
  room : Option Nat
  /-- The working directory. -/
  directory : Place
  /-- The user's own directory, as far as the environment names one. -/
  home : Option Path
  /-- The user's own directory, as far as it is on record. -/
  account : Option Path
  /-- Where commands are searched unless something else is configured. -/
  searchPath : Option Bytes
  /-- The directory for state files, as far as the environment names one. -/
  stateHome : Option Bytes
  /-- Which diagnostics are wanted, as far as the environment says so. -/
  logFilter : Option Text
  deriving DecidableEq, Repr

namespace Host

/-- The absolute path of a place. -/
def pathOf (place : Place) : Path :=
  if place.isEmpty then ⟨[Path.slash]⟩ else ⟨place.reverse.flatMap (Path.slash :: ·)⟩

/-- The absolute path of the working directory, while that exists. -/
def workingPath? (host : Host) : Option Path :=
  if host.directory.isOrphan || !host.files.isDirectory host.directory then none
  else some (pathOf host.directory)

/-- The user's own directory: what the environment says goes before what is on record. -/
def ownDirectory? (host : Host) : Option Path := host.home.or host.account

/-- What a path leads to, links followed. -/
def found? (host : Host) (path : Path) : Option FileNode :=
  host.files.found? host.user host.directory path

/-- Whether a path leads anywhere. -/
def pathExists (host : Host) (path : Path) : Bool := (host.found? path).isSome

/-- Whether a path leads to a regular file. -/
def isFile (host : Host) (path : Path) : Bool := (host.found? path).any FileNode.isFile

/-- Whether a path leads to a regular file that the user may execute. -/
def isExecutable (host : Host) (path : Path) : Bool :=
  (host.found? path).any fun node => node.isFile && node.permits host.user .execute

def read (host : Host) (path : Path) : Except FileError Bytes :=
  host.files.read host.user host.directory path

def readText (host : Host) (path : Path) : Except FileError Text :=
  host.files.readText host.user host.directory path

end Host

end RunLine
