import RunLine.Proofs.Text.Utf8
import RunLine.Settings.Load

/-!
# Which layers are in force

Of the files that may hold configuration at most two are read, a global one and a project file.  If
one of the two is no text or states no layer, there is no configuration.  Otherwise each setting has
the value of the first layer that sets it.  No other file is asked for more than its existence, and
none that would be tried after the chosen ones is asked for anything.
-/

namespace RunLine

namespace Layer

variable {host other : Host} {path : Path} {chosen : Option Path} {layer upper lower : Layer}

/-! ## The chosen files -/

/-- Where the search for a project file starts: nowhere, if the working directory was removed. -/
def startOf (host : Host) : Path := host.workingPath?.getD ⟨[]⟩

/-- The files that may be the project file, those of the nearest directory first. -/
def projectPaths (start : Path) : List Path :=
  start.ancestors.flatMap fun directory => projectNames.map directory.join

theorem projectFile?_eq (host : Host) (start : Path) :
    projectFile? host start = (projectPaths start).find? host.isFile := by
  rw [projectPaths, List.find?_flatMap]
  rfl

theorem pathExists_of_isFile (isFile : host.isFile path = true) : host.pathExists path = true := by
  rw [Host.isFile] at isFile
  rw [Host.pathExists]
  cases found : host.found? path with
  | none => simp [found] at isFile
  | some node => rfl

theorem pathExists_of_globalFile? (isChosen : globalFile? host = some path) :
    host.pathExists path = true := by
  obtain ⟨home, -, found⟩ := Option.bind_eq_some_iff.mp isChosen
  exact List.find?_some found

theorem isFile_of_projectFile? {start : Path} (isChosen : projectFile? host start = some path) :
    host.isFile path = true := by
  rw [projectFile?_eq] at isChosen
  exact List.find?_some isChosen

/-- The global file, or the project file. -/
def IsChosen (host : Host) (path : Path) : Prop :=
  globalFile? host = some path ∨ projectFile? host (startOf host) = some path

theorem IsChosen.pathExists (isChosen : IsChosen host path) : host.pathExists path = true := by
  rcases isChosen with isGlobal | isProject
  · exact pathExists_of_globalFile? isGlobal
  · exact pathExists_of_isFile (isFile_of_projectFile? isProject)

/-! ## What a chosen file states -/

/-- A file that is text and states a layer. -/
def StatedIn (host : Host) (path : Path) (layer : Layer) : Prop :=
  ∃ text, host.read path = .ok (Utf8.encode text) ∧ parse? text = some layer

/-- The layer that a search for a file ends with.  Where no file was found nothing is set. -/
def Contributed (host : Host) : Option Path → Layer → Prop
  | none, layer => layer = empty
  | some path, layer => StatedIn host path layer

theorem readText_eq_ok_iff {text : Text} :
    host.readText path = .ok text ↔ host.read path = .ok (Utf8.encode text) := by
  rw [Host.readText, Host.read, Files.readText]
  cases content : host.files.read host.user host.directory path with
  | error cause => simp [bind, Except.bind]
  | ok bytes =>
      simp only [bind, Except.bind, Except.ok.injEq, ← Utf8.decode?_eq_some_iff]
      cases Utf8.decode? bytes with
      | none => simp
      | some decoded => simp

theorem loadFrom_eq_ok_iff (found : host.pathExists path = true) :
    (loadFrom host path).map (·.getD empty) = .ok layer ↔ StatedIn host path layer := by
  rw [loadFrom, found, StatedIn]
  simp only [← readText_eq_ok_iff]
  cases read : host.readText path with
  | error cause => simp [Except.map]
  | ok text =>
      cases parsed : parse? text with
      | none => simp [Except.map, parsed]
      | some stated => simp [Except.map, parsed]

theorem loadChosen_eq_ok_iff (found : ∀ path, chosen = some path → host.pathExists path = true) :
    loadChosen host chosen = .ok layer ↔ Contributed host chosen layer := by
  cases chosen with
  | none => simp [loadChosen, Contributed, eq_comm]
  | some path => exact loadFrom_eq_ok_iff (found path rfl)

theorem load_eq_bind (host : Host) :
    load host = (do
      let lower ← loadChosen host (globalFile? host)
      let upper ← loadChosen host (projectFile? host (startOf host))
      .ok (upper.atop lower)) := rfl

/-- A search for a file ends with a layer, unless the file that it found states none. -/
theorem exists_contributed_iff :
    (∃ layer, Contributed host chosen layer) ↔
      ∀ path, chosen = some path → ∃ layer, StatedIn host path layer := by
  cases chosen with
  | none => simp [Contributed]
  | some path => simp [Contributed]

/-- Where commands are searched: in the configured search path, or in the one of the environment
where none is configured or an empty one is. -/
def searched (environment : Option Bytes) : Option Text → Option Bytes
  | none | some [] => environment
  | some list => some (Utf8.encode list)

/-- Settings that take each value from the first of some layers that sets it, and the default where
none does.  A text that is empty is a value. -/
structure InForce (host : Host) (layers : List Layer) (settings : Settings) : Prop where
  launcher : settings.launcher = (layers.findSome? Layer.launcher).getD (Text.lit "zvsh")
  pathMarker : settings.pathMarker = (layers.findSome? Layer.pathMarker).getD (Text.lit "@")
  nullDevice : settings.nullDevice = (layers.findSome? Layer.nullDevice).getD (Text.lit "/dev/null")
  nullReplacement :
    settings.nullReplacement = (layers.findSome? Layer.nullReplacement).getD (Text.lit "@null")
  tempHint : settings.tempHint = (layers.findSome? Layer.tempHint).getD (Text.lit ".tmp")
  osAbi : settings.osAbi = (layers.findSome? Layer.osAbi).getD 123
  searchPath : settings.searchPath = (layers.findSome? Layer.searchPath).filter fun list => !list.isEmpty
  searched : settings.searchBytes.or host.searchPath =
    searched host.searchPath (layers.findSome? Layer.searchPath)

/-- Layers leave no choice of settings. -/
theorem InForce.unique {layers : List Layer} {first second : Settings}
    (inForce : InForce host layers first) (alsoInForce : InForce host layers second) :
    first = second := by
  cases first
  cases second
  simp only [Settings.mk.injEq]
  exact ⟨inForce.launcher.trans alsoInForce.launcher.symm,
    inForce.pathMarker.trans alsoInForce.pathMarker.symm,
    inForce.nullDevice.trans alsoInForce.nullDevice.symm,
    inForce.nullReplacement.trans alsoInForce.nullReplacement.symm,
    inForce.tempHint.trans alsoInForce.tempHint.symm,
    inForce.osAbi.trans alsoInForce.osAbi.symm,
    inForce.searchPath.trans alsoInForce.searchPath.symm⟩

/-- The paths of a search up to the first one that is accepted. -/
def tried (accepts : Path → Bool) : List Path → List Path
  | [] => []
  | path :: rest => if accepts path then [path] else path :: tried accepts rest

theorem find?_eq_of_tried {accepts acceptsToo : Path → Bool} {paths : List Path}
    (agree : ∀ path ∈ tried accepts paths, acceptsToo path = accepts path) :
    paths.find? acceptsToo = paths.find? accepts := by
  induction paths with
  | nil => rfl
  | cons path rest ih =>
      cases accepted : accepts path with
      | true =>
          have same := agree path (by simp [tried, accepted])
          simp [same, accepted]
      | false =>
          have same := agree path (by simp [tried, accepted])
          have later := ih fun other member => agree other (by simp [tried, accepted, member])
          simp [same, accepted, later]

/-- Two hosts with the same directories agree where configuration is looked for: on which global
files exist and which project files are regular ones, up to the ones that are chosen, and on the
content of the latter. -/
structure AgreeOnFiles (host other : Host) : Prop where
  ownDirectory? : other.ownDirectory? = host.ownDirectory?
  workingPath? : other.workingPath? = host.workingPath?
  globals : ∀ home, host.ownDirectory? = some home →
    ∀ path ∈ tried host.pathExists (globalPaths home),
      other.pathExists path = host.pathExists path
  projects : ∀ path ∈ tried host.isFile (projectPaths (startOf host)),
    other.isFile path = host.isFile path
  contents : ∀ path, IsChosen host path → other.read path = host.read path

namespace AgreeOnFiles

theorem startOf_eq (agree : AgreeOnFiles host other) : startOf other = startOf host := by
  rw [startOf, startOf, agree.workingPath?]

theorem projectFile?_eq (agree : AgreeOnFiles host other) :
    projectFile? other (startOf other) = projectFile? host (startOf host) := by
  rw [agree.startOf_eq, Layer.projectFile?_eq, Layer.projectFile?_eq]
  exact find?_eq_of_tried agree.projects

end AgreeOnFiles

end Layer

instance decidableEqExcept {ε α : Type} [DecidableEq ε] [DecidableEq α] :
    DecidableEq (Except ε α)
  | .ok one, .ok other => decidable_of_iff (one = other) (by simp)
  | .error one, .error other => decidable_of_iff (one = other) (by simp)
  | .ok _, .error _ | .error _, .ok _ => isFalse (by simp)

/-- The place that names lead to from the root. -/
def Place.lit (names : List String) : Place :=
  (names.map fun name => (Path.lit name).bytes).reverse

/-- A directory that everyone may look into. -/
def FileNode.openDirectory : FileNode := .directory (.ofMode 0o755)

/-- A file of text that everyone may read. -/
def FileNode.openText (text : String) : FileNode :=
  .file (.ofMode 0o644) (some (Utf8.encode (Text.lit text)))

/-- A host with two global files and two project files, of each of which the second is malformed,
and with two binaries in the working directory, of which the second is too short. -/
def Host.sample : Host where
  files := Files.empty
    |>.put (Place.lit ["home"]) .openDirectory
    |>.put (Place.lit ["home", ".config"]) .openDirectory
    |>.put (Place.lit ["home", ".config", "lit-sandbox"]) .openDirectory
    |>.put (Place.lit ["home", ".config", "lit-sandbox", "config.yaml"])
      (.openText "launcher: run\nsearch_path: /opt\n")
    |>.put (Place.lit ["home", ".config", "lit-sandbox", "config.yml"]) (.openText "launcher")
    |>.put (Place.lit ["work"]) .openDirectory
    |>.put (Place.lit ["work", ".lit-sandbox.yml"]) (.openText "search_path: ''\n")
    |>.put (Place.lit [".lit-sandbox.yaml"]) (.openText "launcher")
    |>.put (Place.lit ["work", "app"])
      (.file (.ofMode 0o755) (some [127, 69, 76, 70, 2, 1, 1, 123]))
    |>.put (Place.lit ["work", "cut"]) (.file (.ofMode 0o755) (some [127, 69, 76, 70]))
  user := .root
  room := none
  directory := Place.lit ["work"]
  home := some (Path.lit "/home")
  account := none
  searchPath := some (Utf8.encode (Text.lit "/bin"))
  stateHome := none
  logFilter := none

/-- The settings of that host.  The empty search path of the project hides the global one. -/
def Settings.sample : Settings := { Layer.empty.settings with launcher := Text.lit "run" }

end RunLine
