import RunLine.Proofs.Files.Places
import RunLine.Proofs.Settings.Layers
import RunLine.Proofs.Log.Parts

/-!
# What runs leave of the files

A run adds directories, the log, and the example if that was asked for, or a beginning of it where
there is no room for more; whatever else it does, and however it ends, it changes no files.  Between
two runs of a session only the content of a log changes, since what is reported goes there.  So a
session removes nothing and leaves every regular file alone that is not a log of one of its runs.
What a run adds lies in directories, so a sound host stays sound.
-/

namespace RunLine

open Files

/-- The path at which the log of a run on a host is opened: its two parts joined. -/
def Host.openedLog? (host : Host) : Option Path := do
  let path ← host.logPath?
  let location ← Log.split? path
  some (location.directory.join (.ofText location.name))

/-- The log is opened by a path with the components of the path that it has. -/
theorem Host.components_openedLog? (host : Host) :
    host.openedLog?.map Path.components = host.logPath?.map Path.components := by
  cases isPath : host.logPath? with
  | none => simp [openedLog?, isPath]
  | some path =>
      obtain ⟨components, directory, parted, -⟩ := Log.exists_liesIn isPath
      simp [openedLog?, isPath, parted, (Log.parts_of_split? parted).joined]

/-- The log has no place, or a directory is made and then the log is opened, unless that fails. -/
theorem openLog_cases (host : Host) :
    (openLog host).1 = host.files ∨
      ∃ directory,
        (openLog host).1 = (host.files.makeDirectories host.user host.directory directory).1 ∨
          ∃ path ∈ host.openedLog?,
            (host.files.makeDirectories host.user host.directory directory).1.touch host.user
              host.directory path = .ok (openLog host).1 := by
  cases isPath : host.logPath? with
  | none => exact Or.inl (by rw [openLog, isPath])
  | some path =>
      refine Or.inr ⟨path.parent?.getD (Path.lit "."), ?_⟩
      obtain ⟨components, directory, parted, -⟩ := Log.exists_liesIn isPath
      rw [openLog, isPath]
      simp only [openLogAt, parted]
      split
      · rename_i files made
        exact Or.inl (by rw [made])
      · rename_i files made
        rw [made]
        cases touched : files.touch host.user host.directory
            (directory.join (.ofText (Text.lit "lit-sandbox.log"))) with
        | error error => exact Or.inl rfl
        | ok after =>
            exact Or.inr ⟨_, by simp [Host.openedLog?, isPath, parted], touched⟩

/-- The opening of the log adds directories and the log. -/
theorem openLog_adds (host : Host) :
    Adds (fun place node => node.isDirectory = true ∨
        ∃ path ∈ host.openedLog?, (openLog host).1.LeadsTo host.user host.directory path place)
      host.files (openLog host).1 := by
  rcases openLog_cases host with same | ⟨directory, same | ⟨path, isPath, touched⟩⟩
  · rw [same]
    exact Adds.refl _ host.files
  · have made := makeDirectories_adds host.files host.user host.directory directory
    rw [← same] at made
    exact made.mono fun _ _ => Or.inl
  · have made := makeDirectories_adds host.files host.user host.directory directory
    refine (made.mono fun _ _ => Or.inl).trans ((touch_adds touched).mono ?_)
    intro place _ leads
    exact Or.inr ⟨path, isPath, leads⟩

/-- A command adds nothing but what it may make of the example. -/
theorem Command.execute_adds (host : Host) (stdin : Bytes) (command : Command) :
    Adds (fun place node => command = .init ∧
        (command.execute host stdin).2.LeadsTo host.user host.directory (.ofText Example.name)
          place ∧
        ∃ refusal, (command.execute host stdin).1.ending = (Example.outcome refusal).ending ∧
          Example.IsMade host.user node refusal)
      host.files (command.execute host stdin).2 := by
  cases command with
  | rewrite lines json overrides | shield line | classify names overrides | completions shell =>
      exact Adds.refl _ host.files
  | restore line quotes => exact Adds.refl _ host.files
  | init =>
      rw [Example.execute_init]
      refine (Example.create_adds host).mono ?_
      rintro place node ⟨leads, isMade⟩
      exact ⟨rfl, leads, _, rfl, isMade⟩

theorem Outcome.ending_filtered (outcome : Outcome) (directives : List Log.Directive) :
    (outcome.filtered directives).ending = outcome.ending := by
  rw [filtered]
  split
  · rfl
  · rfl

/-- A run opens the log, and then it may execute a command. -/
theorem run_files (host : Host) (words : List Text) (stdin : Bytes) :
    (run host words stdin).2 = (openLog host).1 ∨
      ∃ command, Command.parse words = .ok command ∧
        (run host words stdin).1.ending =
          (command.execute { host with files := (openLog host).1 } stdin).1.ending ∧
        (run host words stdin).2 =
          (command.execute { host with files := (openLog host).1 } stdin).2 := by
  unfold run
  cases opened : openLog host with
  | mk files ending =>
      cases ending with
      | some ending => exact Or.inl rfl
      | none =>
          cases Log.directives? host.logFilter with
          | none => exact Or.inl rfl
          | some directives =>
              cases parsed : Command.parse words with
              | error interruption => exact Or.inl rfl
              | ok command =>
                  exact Or.inr ⟨command, rfl, by simp only [Outcome.ending_filtered], rfl⟩

/-! ## Sound hosts -/

namespace Host.Sound

variable {host : Host} (sound : host.Sound)
include sound

theorem openLog : Host.Sound { host with files := (openLog host).1 } := by
  refine sound.of_adds ?_ (openLog_adds host)
  rcases openLog_cases host with same | ⟨directory, same | ⟨path, -, touched⟩⟩
  · rw [same]
    exact sound.rooted
  · rw [same]
    exact sound.rooted.makeDirectories sound.isSome host.user directory
  · have made := sound.rooted.makeDirectories sound.isSome host.user directory
    have adds := makeDirectories_adds host.files host.user host.directory directory
    have still := adds.grown.isDirectory_kept sound.isDirectory
    exact made.touch (isSome_of_isDirectory still) touched

theorem execute (command : Command) (stdin : Bytes) :
    Host.Sound { host with files := (command.execute host stdin).2 } := by
  refine sound.of_adds ?_ (command.execute_adds host stdin)
  cases command with
  | rewrite lines json overrides | shield line | classify names overrides | completions shell =>
      exact sound.rooted
  | restore line quotes => exact sound.rooted
  | init =>
      rw [Example.execute_init]
      cases found : host.pathExists (.ofText Example.name) with
      | true =>
          rw [Example.create_of_exists found]
          exact sound.rooted
      | false =>
          rw [Example.create_of_missing found]
          exact sound.rooted.write sound.isSome (Host.found?_eq_none found)

/-- Whatever is run, and however it ends, a sound host is left sound. -/
theorem run (words : List Text) (stdin : Bytes) :
    Host.Sound { host with files := (run host words stdin).2 } := by
  rcases run_files host words stdin with same | ⟨command, -, -, same⟩
  · rw [same]
    exact sound.openLog
  · rw [same]
    exact sound.openLog.execute command stdin

end Host.Sound

/-! ## Invocations -/

/-- A run of the program: the host, the words of the command line, and the standard input. -/
structure Invocation where
  host : Host
  words : List Text
  stdin : Bytes

namespace Invocation

variable (invocation : Invocation)

/-- The outcome and the files, the content of the log apart. -/
def result : Outcome × Files := run invocation.host invocation.words invocation.stdin

/-- In a tree the log of the invocation is found at a place. -/
def LogsAt (files : Files) (place : Place) : Prop :=
  ∃ path ∈ invocation.host.openedLog?,
    files.LeadsTo invocation.host.user invocation.host.directory path place

instance decidableLogsAt (files : Files) (place : Place) :
    Decidable (invocation.LogsAt files place) :=
  inferInstanceAs (Decidable (∃ path ∈ invocation.host.openedLog?, files.LeadsTo _ _ path place))

/-- In a tree what the invocation made of the example, if it was for that, is found at a place. -/
structure WritesExampleAt (files : Files) (place : Place) (node : FileNode) : Prop where
  asked : Command.parse invocation.words = .ok .init
  leads : files.LeadsTo invocation.host.user invocation.host.directory (.ofText Example.name) place
  /-- The node is all of the example if the invocation succeeded, and a beginning of it if the
  writing failed. -/
  made : ∃ refusal, invocation.result.1.ending = (Example.outcome refusal).ending ∧
    Example.IsMade invocation.host.user node refusal

/-- What a run may add to the files. -/
theorem result_adds :
    Adds (fun place node => node.isDirectory = true ∨
        invocation.LogsAt invocation.result.2 place ∨
        invocation.WritesExampleAt invocation.result.2 place node)
      invocation.host.files invocation.result.2 := by
  have opened := openLog_adds invocation.host
  rcases run_files invocation.host invocation.words invocation.stdin with
    same | ⟨command, parsed, ending, same⟩
  · rw [← same] at opened
    refine opened.mono ?_
    rintro place node (isDirectory | isLog)
    · exact Or.inl isDirectory
    · exact Or.inr (Or.inl isLog)
  · have executed := command.execute_adds
      { invocation.host with files := (openLog invocation.host).1 } invocation.stdin
    rw [← same, ← ending] at executed
    refine (opened.mono ?_).trans (executed.mono ?_)
    · rintro place node (isDirectory | ⟨path, isPath, isLog⟩)
      · exact Or.inl isDirectory
      · exact Or.inr (Or.inl ⟨path, isPath, isLog.of_grown executed.grown⟩)
    · rintro place node ⟨rfl, leads, made⟩
      exact Or.inr (Or.inr ⟨parsed, leads, made⟩)

/-- The trees that an invocation may leave.  What is reported goes into the log, so the content of
that is open where it is a regular file. -/
def Leaves (after : Files) : Prop :=
  ∀ place, after.node? place = invocation.result.2.node? place ∨
    invocation.LogsAt invocation.result.2 place ∧ ∃ permissions content later,
      invocation.result.2.node? place = some (.file permissions content) ∧
        after.node? place = some (.file permissions later)

end Invocation

/-! ## Sessions -/

/-- A tree that another one became: nothing was removed, only at some places regular files may have
another content, and there and where certain nodes were made something else than a directory may be
new. -/
structure LeftAlone (changed : Place → Prop) (made : Place → FileNode → Prop)
    (before after : Files) : Prop where
  /-- Whatever was there is there, and only files may have changed in content. -/
  grown : Grown before after
  unchanged : ∀ place permissions content,
    before.node? place = some (.file permissions content) → ¬ changed place →
      after.node? place = some (.file permissions content)
  new : ∀ place node, before.node? place = none → after.node? place = some node →
    node.isDirectory = true ∨ changed place ∨ made place node

namespace LeftAlone

variable {changed changedToo : Place → Prop} {made madeToo : Place → FileNode → Prop}
variable {before middle after : Files}

theorem refl (changed : Place → Prop) (made : Place → FileNode → Prop) (files : Files) :
    LeftAlone changed made files files where
  grown := Grown.refl files
  unchanged _ _ _ found _ := found
  new place node vacant found := by simp [vacant] at found

theorem mono (alone : LeftAlone changed made before after)
    (onChanged : ∀ place, changed place → changedToo place)
    (onMade : ∀ place node, made place node → madeToo place node) :
    LeftAlone changedToo madeToo before after where
  grown := alone.grown
  unchanged place permissions content found same :=
    alone.unchanged place permissions content found (same ∘ onChanged place)
  new place node vacant found :=
    (alone.new place node vacant found).imp_right (Or.imp (onChanged place) (onMade place node))

/-- What was there is there, unless its place is one where a content may have changed. -/
theorem kept (alone : LeftAlone changed made before after) {place : Place} {node : FileNode}
    (found : before.node? place = some node) (same : ¬ changed place) :
    after.node? place = some node := by
  cases node with
  | file permissions content => exact alone.unchanged place permissions content found same
  | directory permissions | device permissions | link target =>
      obtain ⟨later, foundLater, shape⟩ := alone.grown place _ found
      cases later <;> simp_all [FileNode.shape]

theorem trans (early : LeftAlone changed made before middle)
    (late : LeftAlone changed made middle after) : LeftAlone changed made before after where
  grown := early.grown.trans late.grown
  unchanged place permissions content found same :=
    late.unchanged place permissions content
      (early.unchanged place permissions content found same) same
  new place node vacant found := by
    cases between : middle.node? place with
    | none => exact late.new place node between found
    | some earlier =>
        by_cases isChanged : changed place
        · exact Or.inr (Or.inl isChanged)
        · have still := late.kept between isChanged
          rw [found, Option.some_inj] at still
          subst still
          exact early.new place node vacant between

end LeftAlone

namespace Invocation

variable {invocation : Invocation} {place : Place} {node : FileNode} {before after : Files}

theorem LogsAt.of_grown (grown : Grown before after) (logs : invocation.LogsAt before place) :
    invocation.LogsAt after place := by
  obtain ⟨path, isPath, leads⟩ := logs
  exact ⟨path, isPath, leads.of_grown grown⟩

theorem WritesExampleAt.of_grown (grown : Grown before after)
    (writes : invocation.WritesExampleAt before place node) :
    invocation.WritesExampleAt after place node :=
  ⟨writes.asked, writes.leads.of_grown grown, writes.made⟩

theorem Leaves.grown (leaves : invocation.Leaves after) : Grown invocation.result.2 after := by
  intro place node found
  rcases leaves place with same | ⟨-, permissions, content, later, foundToo, foundLater⟩
  · exact ⟨node, same.trans found, rfl⟩
  · rw [found] at foundToo
    cases foundToo
    exact ⟨.file permissions later, foundLater, rfl⟩

/-- What one invocation leaves alone. -/
theorem Leaves.leftAlone (leaves : invocation.Leaves after) :
    LeftAlone (invocation.LogsAt after) (invocation.WritesExampleAt after)
      invocation.host.files after where
  grown := invocation.result_adds.grown.trans leaves.grown
  unchanged place permissions content found noLog := by
    rcases leaves place with same | ⟨logs, -⟩
    · exact same.trans (invocation.result_adds.kept found)
    · exact absurd (logs.of_grown leaves.grown) noLog
  new place node vacant found := by
    rcases leaves place with same | ⟨logs, -⟩
    · rcases invocation.result_adds place with vacantStill | ⟨-, added, foundAdded, isNew⟩
      · simp [same, vacantStill, vacant] at found
      · rw [same, foundAdded] at found
        cases found
        rcases isNew with isDirectory | logs | writes
        · exact Or.inl isDirectory
        · exact Or.inr (Or.inl (logs.of_grown leaves.grown))
        · exact Or.inr (Or.inr (writes.of_grown leaves.grown))
    · exact Or.inr (Or.inl (logs.of_grown leaves.grown))

end Invocation

/-- Invocations one after another, each on the files that the one before left, with what each of
them left.  Their environments and working directories are independent. -/
inductive Session : Files → List (Invocation × Files) → Files → Prop
  | nil (files : Files) : Session files [] files
  | cons {invocation : Invocation} {middle after : Files} {history : List (Invocation × Files)}
      (leaves : invocation.Leaves middle) (rest : Session middle history after) :
      Session invocation.host.files ((invocation, middle) :: history) after

/-- Whatever is run, and however it ends: nothing is removed, every regular file keeps its mode, and
its content too unless it was the log of a run.  What is new is a directory, the log of a run, or
what a run for the example has made of that: all of it, or a beginning if the writing failed. -/
theorem session_leaves_alone {before after : Files} {history : List (Invocation × Files)}
    (session : Session before history after) :
    LeftAlone (fun place => ∃ entry ∈ history, entry.1.LogsAt entry.2 place)
      (fun place node => ∃ entry ∈ history, entry.1.WritesExampleAt entry.2 place node)
      before after := by
  induction session with
  | nil files => exact LeftAlone.refl _ _ files
  | cons leaves rest ih =>
      refine (leaves.leftAlone.mono ?_ ?_).trans (ih.mono ?_ ?_)
      · intro place logs
        exact ⟨_, List.mem_cons_self, logs⟩
      · intro place node isMade
        exact ⟨_, List.mem_cons_self, isMade⟩
      · rintro place ⟨entry, member, logs⟩
        exact ⟨entry, List.mem_cons_of_mem _ member, logs⟩
      · rintro place node ⟨entry, member, isMade⟩
        exact ⟨entry, List.mem_cons_of_mem _ member, isMade⟩

/-- The same invocation on other files. -/
def Invocation.on (invocation : Invocation) (files : Files) : Invocation :=
  { invocation with host := { invocation.host with files } }

/-- A run is a session on any files, whatever it is followed by. -/
theorem Session.run (invocation : Invocation) {files after : Files}
    {history : List (Invocation × Files)}
    (rest : Session (invocation.on files).result.2 history after) :
    Session files ((invocation.on files, (invocation.on files).result.2) :: history) after := by
  have leaves : (invocation.on files).Leaves (invocation.on files).result.2 := fun _ => Or.inl rfl
  exact Session.cons leaves rest

/-- Files among which the example leads through a link to nothing. -/
def Files.sample : Files :=
  Host.sample.files.put (Place.lit ["work", ".lit-sandbox.yaml"]) (.link (Path.lit "../made"))

/-- A run that fails in the second line of its input. -/
def Invocation.failing : Invocation where
  host := { Host.sample with stateHome := some (Utf8.encode (Text.lit "/state")) }
  words := [Text.lit "rewrite"]
  stdin := Utf8.encode (Text.lit "app\n") ++ [255]

/-- A run that writes the example and has its log in the working directory. -/
def Invocation.writing : Invocation where
  host := { Host.sample with stateHome := some (Utf8.encode (Text.lit ".")) }
  words := [Text.lit "init"]
  stdin := []

/-- What the failing run leaves. -/
def Files.sampleAfter : Files := (Invocation.failing.on Files.sample).result.2

/-- What the two runs leave one after the other. -/
def Files.sampleLast : Files := (Invocation.writing.on Files.sampleAfter).result.2

/-- The two runs one after the other.  Their logs and the example are new, and the binary that was
to be launched is as it was. -/
theorem session_leaves_alone_sample :
    Session Files.sample [(Invocation.failing.on Files.sample, Files.sampleAfter),
        (Invocation.writing.on Files.sampleAfter, Files.sampleLast)] Files.sampleLast ∧
      (Invocation.failing.on Files.sample).result.1.stdout = Text.lit "run app\n" ∧
      (Invocation.failing.on Files.sample).result.1.ending.code = 1 ∧
      (Invocation.failing.on Files.sample).LogsAt Files.sampleAfter
        (Place.lit ["state", "lit-sandbox", "lit-sandbox.log"]) ∧
      (Invocation.writing.on Files.sampleAfter).LogsAt Files.sampleLast
        (Place.lit ["work", "lit-sandbox", "lit-sandbox.log"]) ∧
      (Invocation.writing.on Files.sampleAfter).WritesExampleAt Files.sampleLast
        (Place.lit ["made"]) (newFile .root (Utf8.encode Example.text)) ∧
      Files.sampleLast.node? (Place.lit ["work", "app"]) =
        some (.file (.ofMode 0o755) (some [127, 69, 76, 70, 2, 1, 1, 123])) := by
  have session : Session Files.sample [(Invocation.failing.on Files.sample, Files.sampleAfter),
      (Invocation.writing.on Files.sampleAfter, Files.sampleLast)] Files.sampleLast :=
    Session.run Invocation.failing
      (Session.run Invocation.writing (Session.nil Files.sampleLast))
  have noLog : ¬ ∃ entry ∈ [(Invocation.failing.on Files.sample, Files.sampleAfter),
      (Invocation.writing.on Files.sampleAfter, Files.sampleLast)],
      entry.1.LogsAt entry.2 (Place.lit ["work", "app"]) := by
    rintro ⟨entry, member, logs⟩
    rw [List.mem_cons, List.mem_singleton] at member
    rcases member with rfl | rfl
    · exact absurd logs (by decide +kernel)
    · exact absurd logs (by decide +kernel)
  have writes : (Invocation.writing.on Files.sampleAfter).WritesExampleAt Files.sampleLast
      (Place.lit ["made"]) (newFile .root (Utf8.encode Example.text)) :=
    ⟨by decide +kernel, by decide +kernel, none, by decide +kernel, rfl⟩
  refine ⟨session, by decide +kernel, by decide +kernel, by decide +kernel, by decide +kernel,
    writes, ?_⟩
  exact (session_leaves_alone session).unchanged _ _ _ (by decide +kernel) noLog

/-- A new node comes into being at a place. -/
def Invocation.Makes (invocation : Invocation) (place : Place) (node : FileNode) : Prop :=
  invocation.host.files.node? place = none ∧ invocation.result.2.node? place = some node

instance decidableMakes (invocation : Invocation) (place : Place) (node : FileNode) :
    Decidable (invocation.Makes place node) := inferInstanceAs (Decidable (_ ∧ _))

/-- A run of a user who has no directory, where the environment names none for state files. -/
def Invocation.homeless : Invocation where
  host := { Host.sample with home := none }
  words := [Text.lit "shield", Text.lit "x"]
  stdin := []

/-- A run for which the environment names a relative directory for state files. -/
def Invocation.relative : Invocation where
  host := { Host.sample with stateHome := some (Utf8.encode (Text.lit "st")) }
  words := [Text.lit "shield", Text.lit "x"]
  stdin := []

/-- A run for the example while the storage is full. -/
def Invocation.cramped : Invocation where
  host := { Host.sample with room := some 0 }
  words := [Text.lit "init"]
  stdin := []

/-- Not every new file is the log under the user's directory for state files or a finished example.
Where there is no such directory the log lies in the working directory, and a relative one that the
environment names is taken from there.  Where there is no room for the example an empty file is left
of it. -/
theorem run_makes_more :
    Log.stateDirectory? Invocation.homeless.host.stateHome
        Invocation.homeless.host.ownDirectory? = none ∧
      Invocation.homeless.result.1.ending = .success ∧
      Invocation.homeless.Makes (Place.lit ["work", "lit-sandbox.log"]) (newFile .root []) ∧
      Invocation.relative.result.1.ending = .success ∧
      Invocation.relative.Makes (Place.lit ["work", "st", "lit-sandbox", "lit-sandbox.log"])
        (newFile .root []) ∧
      Invocation.cramped.result.1.ending = .failed ⟨FileError.noSpace.message, none⟩ ∧
      Invocation.cramped.Makes (Place.lit ["work", ".lit-sandbox.yaml"]) (newFile .root []) := by
  refine ⟨by decide, ?_, ?_, ?_, ?_, ?_, ?_⟩
  all_goals decide +kernel

end RunLine
