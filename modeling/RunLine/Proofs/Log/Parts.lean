import RunLine.Program
import RunLine.Proofs.Path.Endings
import RunLine.Proofs.Text.Utf8

/-!
# The parts of a path to a log

A path is parted exactly if it ends with a name that is a text, and joining the parts gives a path
with the same components.  The path of the log ends with a name whatever the environment says and
wherever the log lies, so the opening of the log never fails for the want of one.
-/

namespace RunLine

namespace Log

variable {path : Path} {location : Location} {named : Option Bytes} {text : Text}
variable {home working : Option Path}

/-! ## Parting -/

/-- A path is parted into its parent and the name with which it ends. -/
theorem split?_eq_some_iff :
    split? path = some location ↔
      Path.EndsWith path.bytes (.name (Utf8.encode location.name)) ∧
        path.parent? = some location.directory := by
  simp only [split?, bind, Option.bind_eq_some_iff, Path.fileName?_eq_some_iff,
    Utf8.decode?_eq_some_iff, Option.some_inj]
  constructor
  · rintro ⟨_, ends, text, rfl, rfl⟩
    obtain ⟨parent, isParent, -⟩ := Path.exists_parent? ends
    exact ⟨ends, by rw [isParent, Option.getD_some]⟩
  · rintro ⟨ends, isParent⟩
    exact ⟨_, ends, location.name, rfl, by rw [isParent, Option.getD_some]⟩

theorem exists_split?_iff :
    (∃ location, split? path = some location) ↔
      ∃ text, Path.EndsWith path.bytes (.name (Utf8.encode text)) := by
  constructor
  · rintro ⟨location, parted⟩
    exact ⟨location.name, (split?_eq_some_iff.mp parted).1⟩
  · rintro ⟨text, ends⟩
    obtain ⟨parent, isParent, -⟩ := Path.exists_parent? ends
    exact ⟨⟨parent, text⟩, split?_eq_some_iff.mpr ⟨ends, isParent⟩⟩

/-- What is not parted is empty or ends with something else than a name that is a text. -/
theorem split?_eq_none_iff :
    split? path = none ↔
      path.bytes = [] ∨ Path.EndsWith path.bytes .root ∨ Path.EndsWith path.bytes .here ∨
        Path.EndsWith path.bytes .up ∨
          ∃ name, Path.EndsWith path.bytes (.name name) ∧ Utf8.decode? name = none := by
  have parted : split? path = none ↔
      ∀ text, ¬ Path.EndsWith path.bytes (.name (Utf8.encode text)) := by
    rw [← not_exists, ← exists_split?_iff, ← Option.isSome_iff_exists,
      Option.not_isSome_iff_eq_none]
  rw [parted]
  constructor
  · intro nameless
    cases last : path.components.getLast? with
    | none =>
        rw [List.getLast?_eq_none_iff, Path.components_eq_nil_iff] at last
        exact .inl last
    | some component =>
        rw [Path.getLast?_components_iff] at last
        cases component with
        | root => exact .inr (.inl last)
        | here => exact .inr (.inr (.inl last))
        | up => exact .inr (.inr (.inr (.inl last)))
        | name name =>
            refine .inr (.inr (.inr (.inr ⟨name, last, ?_⟩)))
            cases decoded : Utf8.decode? name with
            | none => rfl
            | some text =>
                rw [Utf8.decode?_eq_some_iff] at decoded
                exact absurd (decoded ▸ last) (nameless text)
  · rintro (nothing | atRoot | isHere | isUp | ⟨name, ends, illegible⟩) text named
    · exact named.ne_nil nothing
    · cases atRoot.unique named
    · cases isHere.unique named
    · cases isUp.unique named
    · cases ends.unique named
      simp at illegible

/-! ## Parts -/

/-- What the parts of a path have to do with it. -/
structure Parts (path : Path) (location : Location) : Prop where
  last : Path.EndsWith path.bytes (.name (Utf8.encode location.name))
  something : location.name ≠ []
  whole : '/' ∉ location.name
  notHere : location.name ≠ Text.lit "."
  notUp : location.name ≠ Text.lit ".."
  joined : (location.directory.join (.ofText location.name)).components = path.components

theorem parts_of_split? (parted : split? path = some location) : Parts path location := by
  obtain ⟨ends, isParent⟩ := split?_eq_some_iff.mp parted
  obtain ⟨parent, isParent', longer⟩ := Path.exists_parent? ends
  cases isParent.symm.trans isParent'
  have isName := ends.isName
  obtain ⟨whole, something, notHere, notUp⟩ := Path.isName_iff.mp isName
  refine ⟨ends, ?_, ?_, ?_, ?_, ?_⟩
  · exact mt Utf8.encode_eq_nil_iff.mpr something
  · intro inside
    exact whole (List.mem_flatMap.mpr ⟨'/', inside, by decide⟩)
  · intro isHere
    exact notHere (by rw [isHere]; rfl)
  · intro isUp
    exact notUp (by rw [isUp]; rfl)
  · exact (Path.components_join isName _).trans longer.symm

/-! ## The log -/

theorem isName_directory : Path.IsName (Path.lit "lit-sandbox").bytes := ⟨by decide, by decide⟩

theorem isName_file : Path.IsName (Path.lit "lit-sandbox.log").bytes := ⟨by decide, by decide⟩

theorem isName_local : Path.IsName (Path.lit ".local").bytes := ⟨by decide, by decide⟩

theorem isName_state : Path.IsName (Path.lit "state").bytes := ⟨by decide, by decide⟩

def component (literal : String) : Path.Component := .name (Path.lit literal).bytes

/-- A path is parted into a directory with some components and the name of the log. -/
def LiesIn (path : Path) (components : List Path.Component) : Prop :=
  ∃ directory, split? path = some ⟨directory, Text.lit "lit-sandbox.log"⟩ ∧
    directory.components = components

theorem liesIn_join (directory : Path) : LiesIn (directory.join fileName) directory.components := by
  have longer := Path.components_join isName_file directory
  have ends : Path.EndsWith (directory.join fileName).bytes (.name fileName.bytes) := by
    rw [← Path.getLast?_components_iff, fileName, longer, List.getLast?_concat]
  obtain ⟨parent, isParent, parted⟩ := Path.exists_parent? ends
  refine ⟨parent, split?_eq_some_iff.mpr ⟨ends, isParent⟩, ?_⟩
  exact List.append_cancel_right (parted.symm.trans longer)

theorem liesIn_under (stateDirectory : Path) :
    LiesIn (under stateDirectory) (stateDirectory.components ++ [component "lit-sandbox"]) := by
  have longer := Path.components_join isName_directory stateDirectory
  have lies := liesIn_join (stateDirectory.join (Path.lit "lit-sandbox"))
  rwa [longer] at lies

/-- A directory for state files that is named by a text is taken as it is. -/
theorem stateDirectory?_of_text (something : text ≠ []) (home : Option Path) :
    stateDirectory? (some (Utf8.encode text)) home = some (.ofText text) := by
  have named : Utf8.encode text ≠ [] := mt Utf8.encode_eq_nil_iff.mp something
  rw [stateDirectory?, Option.filter_some, if_pos (by simp [named])]
  rfl

/-- Where no text names a directory for state files, it is the usual one. -/
theorem stateDirectory?_of_unnamed (unnamed : ∀ text, named = some (Utf8.encode text) → text = [])
    (home : Option Path) :
    stateDirectory? named home =
      home.map fun home => (home.join (Path.lit ".local")).join (Path.lit "state") := by
  rw [stateDirectory?]
  cases named with
  | none => rfl
  | some bytes =>
      have notNamed : ¬ (!bytes.isEmpty && (Utf8.decode? bytes).isSome) = true := by
        rw [Bool.and_eq_true, Bool.not_eq_true', List.isEmpty_eq_false_iff,
          Option.isSome_iff_exists]
        rintro ⟨something, text, decoded⟩
        rw [Utf8.decode?_eq_some_iff] at decoded
        refine something ?_
        rw [decoded, Utf8.encode_eq_nil_iff]
        exact unnamed text (congrArg some decoded)
      rw [Option.filter_some, if_neg notNamed]

/-- Wherever the log lies, its path can be parted. -/
theorem exists_liesIn (isPath : path? named home working = some path) :
    ∃ components, LiesIn path components := by
  rw [path?] at isPath
  cases isDirectory : stateDirectory? named home with
  | some directory =>
      rw [isDirectory, Option.some_inj] at isPath
      subst isPath
      exact ⟨_, liesIn_under directory⟩
  | none =>
      rw [isDirectory, Option.map_eq_some_iff] at isPath
      obtain ⟨directory, -, rfl⟩ := isPath
      exact ⟨_, liesIn_join directory⟩

end Log

theorem openLogAt_ne_invalidName {host : Host} {path : Path} {components : List Path.Component}
    (lies : Log.LiesIn path components) (cause : Option Text) :
    (openLogAt host path).2 ≠ some (.failed ⟨Log.invalidName, cause⟩) := by
  obtain ⟨directory, parted, -⟩ := lies
  unfold openLogAt
  simp only [parted]
  split
  · simp only [ne_eq, Option.some_inj, Ending.failed.injEq, Report.mk.injEq]
    rintro ⟨same, -⟩
    have first := congrArg List.head? same
    rw [List.head?_append_of_ne_nil _ (by decide)] at first
    exact absurd first (by decide)
  · split
    · simp
    · simp

/-- If the log cannot be opened, that is not for the want of a file name. -/
theorem openLog_ne_invalidName (host : Host) (cause : Option Text) :
    (openLog host).2 ≠ some (.failed ⟨Log.invalidName, cause⟩) := by
  rw [openLog]
  cases isPath : host.logPath? with
  | some path =>
      obtain ⟨components, lies⟩ := Log.exists_liesIn isPath
      exact openLogAt_ne_invalidName lies cause
  | none =>
      simp only [ne_eq, Option.some_inj, Ending.failed.injEq, Report.mk.injEq]
      rintro ⟨same, -⟩
      exact absurd same (by decide)

namespace Log

/-- A path is parted exactly if it ends with a name that is a text: not the empty path, no root, and
none that ends with `.`, with `..` or with other bytes.  The second part is that name, and the parts
joined have the components of the path.  So the log is parted whatever the environment names: its
directory has the components of the directory for state files and one more, or where there is no
such directory those of the working directory.  For the want of a file name no log fails to be
opened. -/
theorem parted_by_last_component :
    (∀ path, (∃ location, split? path = some location) ↔
        ∃ text, Path.EndsWith path.bytes (.name (Utf8.encode text))) ∧
      (∀ path location, split? path = some location → Parts path location) ∧
      (∀ path, split? path = none ↔
        path.bytes = [] ∨ Path.EndsWith path.bytes .root ∨ Path.EndsWith path.bytes .here ∨
          Path.EndsWith path.bytes .up ∨
            ∃ name, Path.EndsWith path.bytes (.name name) ∧ Utf8.decode? name = none) ∧
      (∀ home working text, text ≠ [] →
        ∃ path, path? (some (Utf8.encode text)) home working = some path ∧
          LiesIn path ((Path.ofText text).components ++ [component "lit-sandbox"])) ∧
      (∀ home working named, (∀ text, named = some (Utf8.encode text) → text = []) →
        ∃ path, path? named (some home) working = some path ∧
          LiesIn path (home.components ++
            [component ".local", component "state", component "lit-sandbox"])) ∧
      (∀ working named, (∀ text, named = some (Utf8.encode text) → text = []) →
        ∃ path, path? named none (some working) = some path ∧
          LiesIn path working.components) ∧
      ∀ host cause, (openLog host).2 ≠ some (.failed ⟨invalidName, cause⟩) := by
  refine ⟨fun _ => exists_split?_iff, fun _ _ => parts_of_split?, fun _ => split?_eq_none_iff,
    ?_, ?_, ?_, openLog_ne_invalidName⟩
  · intro home working text something
    refine ⟨under (.ofText text), ?_, liesIn_under (.ofText text)⟩
    rw [path?, stateDirectory?_of_text something]
  · intro home working named unnamed
    refine ⟨_, by rw [path?, stateDirectory?_of_unnamed unnamed, Option.map_some], ?_⟩
    have lies := liesIn_under ((home.join (Path.lit ".local")).join (Path.lit "state"))
    rwa [Path.components_join isName_state, Path.components_join isName_local, List.append_assoc,
      List.append_assoc] at lies
  · intro working named unnamed
    refine ⟨working.join fileName, ?_, liesIn_join working⟩
    rw [path?, stateDirectory?_of_unnamed unnamed, Option.map_none, Option.map_some]

/-- A path with slashes and dots about its last name, one that ends with `..`, a directory for state
files that is relative, an empty name for one, and a host without any. -/
theorem parted_by_last_component_sample :
    split? (Path.lit "../state//./läs/./") = some ⟨Path.lit "../state", Text.lit "läs"⟩ ∧
      Parts (Path.lit "../state//./läs/./") ⟨Path.lit "../state", Text.lit "läs"⟩ ∧
      split? (Path.lit "/state/../.") = none ∧
      (∃ path, path? (some (Utf8.encode (Text.lit "./state/."))) none none = some path ∧
        LiesIn path [.here, component "state", component "lit-sandbox"]) ∧
      (∃ path, path? (some []) (some (Path.lit "/home")) none = some path ∧
        LiesIn path [.root, component "home", component ".local", component "state",
          component "lit-sandbox"]) ∧
      ∃ path, path? none none (some (Path.lit "/work")) = some path ∧
        LiesIn path [.root, component "work"] := by
  obtain ⟨-, parts, fails, named, unnamed, homeless, -⟩ := parted_by_last_component
  refine ⟨by decide +kernel, parts _ _ (by decide +kernel), ?_,
    named none none (Text.lit "./state/.") (by decide), ?_, ?_⟩
  · have up : Path.EndsWith ((Path.lit "/state/").bytes ++ [Path.dot, Path.dot]) .up :=
      .up (.inr (by decide))
    exact (fails _).mpr (.inr (.inr (.inr (.inl up.slash.dot))))
  · refine unnamed (Path.lit "/home") none (some []) ?_
    intro text named
    exact Utf8.encode_eq_nil_iff.mp (Option.some_inj.mp named).symm
  · exact homeless (Path.lit "/work") none nofun

end Log

end RunLine
