import RunLine.Host
import RunLine.Settings.Decode
/-!
# Finding and loading layers

The global layer lies in the user's own directory, the project layer in the working directory or the
nearest directory above it that has one.  The project layer wins.  A missing file sets nothing; a
file that is there has to be readable.
-/

namespace RunLine

/-- Why the configuration cannot be had. -/
inductive LoadError where
  | unreadable (cause : FileError)
  | malformed (path : Path)
  deriving DecidableEq, Repr

/-- The wording of a cause. -/
def LoadError.message : LoadError → Text
  | unreadable cause => cause.message
  | malformed path => Text.lit "Failed to parse config at " ++ path.display

namespace Layer

/-- The names of a project file, the preferred one first. -/
def projectNames : List Path := [Path.lit ".lit-sandbox.yaml", Path.lit ".lit-sandbox.yml"]

/-- The global files, the preferred one first. -/
def globalPaths (home : Path) : List Path :=
  [Path.lit "config.yaml", Path.lit "config.yml"].map
    (home.join (Path.lit ".config/lit-sandbox")).join

/-- The project file that lies directly in a directory. -/
def projectFileIn? (host : Host) (directory : Path) : Option Path :=
  (projectNames.map directory.join).find? host.isFile

/-- The nearest project file from a directory upwards. -/
def projectFile? (host : Host) (start : Path) : Option Path :=
  start.ancestors.findSome? (projectFileIn? host)

def globalFile? (host : Host) : Option Path :=
  host.ownDirectory?.bind fun home => (globalPaths home).find? host.pathExists

/-- The layer that a file states, if there is a file. -/
def loadFrom (host : Host) (path : Path) : Except LoadError (Option Layer) :=
  if !host.pathExists path then .ok none
  else
    match host.readText path with
    | .error cause => .error (.unreadable cause)
    | .ok text =>
        match parse? text with
        | none => .error (.malformed path)
        | some layer => .ok (some layer)

/-- The layer of a file that was looked for. -/
def loadChosen (host : Host) : Option Path → Except LoadError Layer
  | none => .ok empty
  | some path => (loadFrom host path).map (·.getD empty)

/-- The layer that global and project file make together. -/
def load (host : Host) : Except LoadError Layer := do
  let lower ← loadChosen host (globalFile? host)
  let upper ← loadChosen host (projectFile? host (host.workingPath?.getD ⟨[]⟩))
  .ok (upper.atop lower)

end Layer

/-- The settings of a run: what is configured, and the overrides on top. -/
def Overrides.load (overrides : Overrides) (host : Host) : Except LoadError Settings :=
  (Layer.load host).map fun layer => (overrides.layer.atop layer).settings

end RunLine
