import RunLine.Proofs.Path.Ancestors
import RunLine.Proofs.Settings.Layers

/-!
# The nearest project file

A search for a project file goes up from where it starts and ends at the first path under which a
regular file of one of the two names lies.  Of two such files the preferred one is chosen.  Whatever
else bears the names makes no difference.
-/

namespace RunLine.Layer

variable {host other : Host} {start directory parent path : Path}

/-- Where the preferred project file of a directory lies. -/
def preferredIn (directory : Path) : Path := directory.join (Path.lit ".lit-sandbox.yaml")

/-- Where the other project file of a directory lies. -/
def secondIn (directory : Path) : Path := directory.join (Path.lit ".lit-sandbox.yml")

/-- The project file of a directory: the preferred one, or the other one if that is alone. -/
inductive ProjectIn (host : Host) (directory : Path) : Path → Prop
  | preferred (isFile : host.isFile (preferredIn directory) = true) :
      ProjectIn host directory (preferredIn directory)
  | second (noFile : host.isFile (preferredIn directory) = false)
      (isFile : host.isFile (secondIn directory) = true) :
      ProjectIn host directory (secondIn directory)

/-- No project file lies in a directory. -/
def Lacks (host : Host) (directory : Path) : Prop :=
  host.isFile (preferredIn directory) = false ∧ host.isFile (secondIn directory) = false

instance decidableLacks (host : Host) (directory : Path) : Decidable (Lacks host directory) :=
  inferInstanceAs (Decidable (_ ∧ _))

theorem projectFileIn?_eq (host : Host) (directory : Path) :
    projectFileIn? host directory =
      if host.isFile (preferredIn directory) then some (preferredIn directory)
      else if host.isFile (secondIn directory) then some (secondIn directory) else none := by
  rw [projectFileIn?, projectNames, preferredIn, secondIn]
  simp only [List.map_cons, List.map_nil, List.find?_cons, List.find?_nil]
  cases host.isFile (directory.join (Path.lit ".lit-sandbox.yaml")) with
  | true => rfl
  | false => cases host.isFile (directory.join (Path.lit ".lit-sandbox.yml")) <;> rfl

theorem projectFileIn?_eq_some_iff :
    projectFileIn? host directory = some path ↔ ProjectIn host directory path := by
  rw [projectFileIn?_eq]
  constructor
  · intro found
    split at found
    · rename_i isFile
      cases found
      exact .preferred isFile
    · rename_i noFile
      split at found
      · rename_i isFile
        cases found
        exact .second (Bool.not_eq_true _ ▸ noFile) isFile
      · cases found
  · intro projectIn
    cases projectIn with
    | preferred isFile => rw [if_pos isFile]
    | second noFile isFile => rw [if_neg (by simp [noFile]), if_pos isFile]

theorem projectFileIn?_eq_none_iff :
    projectFileIn? host directory = none ↔ Lacks host directory := by
  rw [projectFileIn?_eq, Lacks]
  cases host.isFile (preferredIn directory) with
  | true => simp
  | false => cases host.isFile (secondIn directory) <;> simp

theorem projectFile?_eq_some_iff :
    projectFile? host start = some path ↔
      ∃ steps directory, Path.ancestor? steps start = some directory ∧
        ProjectIn host directory path ∧
        ∀ fewer < steps, ∀ nearer, Path.ancestor? fewer start = some nearer →
          Lacks host nearer := by
  rw [projectFile?, List.findSome?_eq_some_iff]
  simp only [projectFileIn?_eq_some_iff, projectFileIn?_eq_none_iff]
  constructor
  · rintro ⟨before, directory, after, parted, projectIn, lacks⟩
    refine ⟨before.length, directory, ?_, projectIn, ?_⟩
    · rw [← Path.getElem?_ancestors, parted]
      simp
    · intro fewer less nearer reached
      rw [← Path.getElem?_ancestors, parted, List.getElem?_append_left less] at reached
      exact lacks nearer (List.mem_of_getElem? reached)
  · rintro ⟨steps, directory, reached, projectIn, lacks⟩
    rw [← Path.getElem?_ancestors] at reached
    obtain ⟨inside, isDirectory⟩ := List.getElem?_eq_some_iff.mp reached
    refine ⟨start.ancestors.take steps, directory, start.ancestors.drop (steps + 1), ?_, projectIn,
      ?_⟩
    · rw [← isDirectory, List.cons_getElem_drop_succ, List.take_append_drop]
    · intro nearer member
      obtain ⟨fewer, less, isNearer⟩ := List.mem_take_iff_getElem.mp member
      refine lacks fewer (by omega) nearer ?_
      rw [← Path.getElem?_ancestors, ← isNearer]
      exact List.getElem?_eq_getElem _

theorem projectFile?_eq_none_iff :
    projectFile? host start = none ↔
      ∀ steps directory, Path.ancestor? steps start = some directory → Lacks host directory := by
  rw [projectFile?, List.findSome?_eq_none_iff]
  simp only [projectFileIn?_eq_none_iff, List.mem_iff_getElem?, Path.getElem?_ancestors]
  constructor
  · intro lacks steps directory reached
    exact lacks directory ⟨steps, reached⟩
  · rintro lacks directory ⟨steps, reached⟩
    exact lacks steps directory reached

/-- Where the search finds nothing it goes on. -/
theorem projectFile?_of_lacks (isParent : start.parent? = some parent)
    (lacks : Lacks host start) : projectFile? host start = projectFile? host parent := by
  rw [projectFile?, start.ancestors_eq, isParent, List.findSome?_cons,
    projectFileIn?_eq_none_iff.mpr lacks]
  rfl

/-- The nearest project file.  It lies under the first path on the way up under which there is one,
and the search fails exactly if there is none under any of them.  The way up goes from the start to
each beginning of its components, the longest first.  What is no regular file is never found, and
hosts with the same regular files among the paths that are tried have the same project file,
whatever else is there.  So where no project file lies the search might as well have started
above. -/
theorem nearest_project_file (host : Host) (start : Path) :
    (∀ path, projectFile? host start = some path ↔
      ∃ steps directory, Path.ancestor? steps start = some directory ∧
        ProjectIn host directory path ∧
        ∀ fewer < steps, ∀ nearer, Path.ancestor? fewer start = some nearer → Lacks host nearer) ∧
      (projectFile? host start = none ↔
        ∀ steps directory, Path.ancestor? steps start = some directory → Lacks host directory) ∧
      (∀ steps, (Path.ancestor? steps start).map Path.components =
        if steps ≤ start.depth then some (start.components.take (start.components.length - steps))
        else none) ∧
      (∀ path, (host.found? path = none ∨
          ∃ permissions, host.found? path = some (.directory permissions)) →
        projectFile? host start ≠ some path) ∧
      (∀ other : Host,
        (∀ path ∈ tried host.isFile (projectPaths start), other.isFile path = host.isFile path) →
          projectFile? other start = projectFile? host start) ∧
      ∀ parent, start.parent? = some parent → Lacks host start →
        projectFile? host start = projectFile? host parent := by
  refine ⟨fun _ => projectFile?_eq_some_iff, projectFile?_eq_none_iff,
    start.map_components_ancestor?, ?_, ?_, fun _ => projectFile?_of_lacks⟩
  · intro path noFile isChosen
    have isFile := isFile_of_projectFile? isChosen
    rw [Host.isFile] at isFile
    rcases noFile with nothing | ⟨permissions, isDirectory⟩
    · simp [nothing] at isFile
    · simp [isDirectory, FileNode.isFile] at isFile
  · intro other alike
    rw [projectFile?_eq, projectFile?_eq]
    exact find?_eq_of_tried alike

/-- A directory and a link that leads nowhere, both of which bear the preferred name, lie on the way
to the project file of the working directory. -/
def nestedHost : Host :=
  { Host.sample with
    files := Host.sample.files
      |>.put (Place.lit ["work", ".lit-sandbox.yaml"]) (.link (Path.lit "nowhere"))
      |>.put (Place.lit ["work", "test"]) .openDirectory
      |>.put (Place.lit ["work", "test", ".lit-sandbox.yaml"]) .openDirectory }

/-- Neither is chosen, and neither keeps the search from going on. -/
theorem nearest_project_file_nested :
    projectFile? nestedHost (Path.lit "/work//test/.") = some (Path.lit "/work/.lit-sandbox.yml") ∧
      projectFile? nestedHost (Path.lit "/work//test/.") ≠
        some (Path.lit "/work//test/./.lit-sandbox.yaml") ∧
      projectFile? Host.sample (Path.lit "/work//test/.") =
        projectFile? nestedHost (Path.lit "/work//test/.") := by
  obtain ⟨-, -, -, never, alike, onward⟩ :=
    nearest_project_file nestedHost (Path.lit "/work//test/.")
  have above := onward (Path.lit "/work") (by decide +kernel) (by decide +kernel)
  refine ⟨above.trans (by decide +kernel), never _ (Or.inr ⟨.ofMode 0o755, by decide +kernel⟩), ?_⟩
  exact alike Host.sample (by decide +kernel)

end RunLine.Layer
