import RunLine.Program
import RunLine.Proofs.Files.Growth

/-!
# What is added to a tree

Making directories adds directories only.  Opening a file for appending adds at most one file, and
so does the writing of the example, even where it fails; either lies where the path in question
leads to afterwards.  Nothing that was there before changes.
-/

namespace RunLine

namespace Files

variable {before middle after files : Files} {user : User} {place directory : Place} {path : Path}
variable {purpose : Purpose} {name : FileName} {node : FileNode} {room : Option Nat}
variable {content : Bytes} {new other : Place → FileNode → Prop}

/-- A tree is another one with some new nodes at places where there was nothing. -/
def Adds (new : Place → FileNode → Prop) (before after : Files) : Prop :=
  ∀ place, after.node? place = before.node? place ∨
    before.node? place = none ∧ ∃ node, after.node? place = some node ∧ new place node

namespace Adds

theorem refl (new : Place → FileNode → Prop) (files : Files) : Adds new files files :=
  fun _ => Or.inl rfl

theorem trans (early : Adds new before middle) (late : Adds new middle after) :
    Adds new before after := by
  intro place
  rcases early place with same | ⟨vacant, node, found, isNew⟩
  · rcases late place with sameToo | ⟨vacant, node, found, isNew⟩
    · exact Or.inl (sameToo.trans same)
    · exact Or.inr ⟨same.symm.trans vacant, node, found, isNew⟩
  · rcases late place with same | ⟨vacantStill, -⟩
    · exact Or.inr ⟨vacant, node, same.trans found, isNew⟩
    · simp [found] at vacantStill

theorem mono (adds : Adds new before after)
    (weaker : ∀ place node, new place node → other place node) : Adds other before after := by
  intro place
  rcases adds place with same | ⟨vacant, node, found, isNew⟩
  · exact Or.inl same
  · exact Or.inr ⟨vacant, node, found, weaker place node isNew⟩

/-- What was there is there unchanged. -/
theorem kept (adds : Adds new before after) (found : before.node? place = some node) :
    after.node? place = some node := by
  rcases adds place with same | ⟨vacant, -⟩
  · exact same.trans found
  · simp [found] at vacant

theorem grown (adds : Adds new before after) : Grown before after :=
  fun _ node found => ⟨node, adds.kept found, rfl⟩

theorem put (vacant : files.node? place = none) (isNew : new place node) :
    Adds new files (files.put place node) := by
  have proper : place ≠ [] := by
    rintro rfl
    simp [node?] at vacant
  intro other
  by_cases same : other = place
  · subst same
    exact Or.inr ⟨vacant, node, node?_put_self files proper node, isNew⟩
  · exact Or.inl (node?_put_of_ne files same node)

end Adds

theorem makeAlong_adds (files : Files) (user : User) (links : Nat) (here : Place)
    (steps : List Path.Step) :
    Adds (fun _ node => node.isDirectory = true) files
      (files.makeAlong user links here steps).1 := by
  induction steps generalizing files links here with
  | nil => exact Adds.refl _ files
  | cons step rest ih =>
      rw [makeAlong]
      split
      · split
        · exact ih _ _ _
        · exact Adds.refl _ files
      · split
        · rename_i met
          split
          · exact (Adds.put (fits_of_stride met) rfl).trans (ih _ _ _)
          · exact Adds.refl _ files
        · exact Adds.refl _ files

theorem makeDirectories_adds (files : Files) (user : User) (directory : Place) (path : Path) :
    Adds (fun _ node => node.isDirectory = true) files
      (files.makeDirectories user directory path).1 := by
  rw [makeDirectories]
  split
  · exact Adds.refl _ files
  · exact makeAlong_adds files user linkLimit directory path.steps

/-- A walk for opening that ended at a vacant name leads to what was put there. -/
theorem find_put (walked : files.walk user .file directory path = .ok (.vacant place name))
    (noLink : ∀ target, node ≠ .link target) :
    (files.put (name :: place) node).find user directory path = .ok (name :: place, node) := by
  have vacant : files.node? (name :: place) = none := fits_of_walk walked
  have adds : Adds (fun added _ => added = name :: place) files (files.put (name :: place) node) :=
    Adds.put vacant rfl
  have found := node?_put_self files (List.cons_ne_nil name place) node
  exact find_eq_ok_iff.mpr ⟨walk_of_grown NoStricter.target_of_file adds.grown walked
    (.filled found noLink), found⟩

/-- A file put at a vacant name at which a walk for opening ended is where the path leads to. -/
theorem put_adds (walked : files.walk user .file directory path = .ok (.vacant place name))
    (content : Bytes) :
    Adds (fun added node =>
        (files.put (name :: place) (newFile user content)).LeadsTo user directory path added ∧
          node = newFile user content) files
      (files.put (name :: place) (newFile user content)) :=
  Adds.put (fits_of_walk walked)
    ⟨⟨newFile user content, find_put walked fun target isLink => by cases isLink⟩, rfl⟩

/-- Opening a file for appending leaves the tree as it is, or it puts an empty file at a vacant name. -/
theorem touch_cases (touched : files.touch user directory path = .ok after) :
    after = files ∨
      ∃ place name, files.walk user .file directory path = .ok (.vacant place name) ∧
        after = files.put (name :: place) (newFile user []) := by
  rw [touch] at touched
  cases walked : files.walk user .file directory path with
  | error error => simp [walked, bind, Except.bind] at touched
  | ok arrival =>
      simp only [walked, bind, Except.bind] at touched
      cases arrival with
      | vacant place name =>
          simp only at touched
          split at touched
          · cases touched
            exact Or.inr ⟨place, name, rfl, rfl⟩
          · cases touched
      | present place =>
          simp only at touched
          split at touched
          · cases touched
          · split at touched
            · cases touched
              exact Or.inl rfl
            · cases touched

theorem touch_adds (touched : files.touch user directory path = .ok after) :
    Adds (fun added _ => after.LeadsTo user directory path added) files after := by
  rcases touch_cases touched with rfl | ⟨place, name, walked, rfl⟩
  · exact Adds.refl _ after
  · exact (put_adds walked []).mono fun _ _ => And.left

theorem found?_of_find (found : files.find user directory path = .ok (place, node)) :
    files.found? user directory path = some node := by
  rw [found?, found]

/-! ## Writing -/

theorem stored_isPrefix (room : Option Nat) (content : Bytes) :
    (stored room content).1 <+: content := by
  cases room with
  | none => exact List.prefix_refl content
  | some room => exact List.take_prefix room content

theorem stored_of_success (success : (stored room content).2 = none) :
    (stored room content).1 = content := by
  cases room with
  | none => rfl
  | some room =>
      have nothingLeft : content.drop room = [] := by simpa [stored] using success
      exact List.take_of_length_le (List.drop_eq_nil_iff.mp nothingLeft)

/-- Writing where nothing is found leaves the tree as it is, or it puts a file at a vacant name.  The
file is kept also if there is no room for all of its content. -/
theorem write_cases (missing : files.found? user directory path = none) :
    (∃ error, files.write user room directory path content = (files, some error)) ∨
      ∃ above name, files.walk user .file directory path = .ok (.vacant above name) ∧
        files.write user room directory path content =
          (files.put (name :: above) (newFile user (stored room content).1),
            (stored room content).2) := by
  rw [write]
  cases walked : files.walk user .file directory path with
  | error error => exact Or.inl ⟨error, rfl⟩
  | ok arrival =>
      cases arrival with
      | vacant above name =>
          cases allowed : files.permits user .write above with
          | true => exact Or.inr ⟨above, name, rfl, by simp only [allowed, if_true]⟩
          | false => exact Or.inl ⟨.permissionDenied, by simp [allowed]⟩
      | present place =>
          have reached : files.walk user .target directory path = .ok (.present place) :=
            walk_of_grown NoStricter.target_of_file (Grown.refl files) walked (.present place)
          cases found : files.node? place with
          | some node =>
              have foundToo := found?_of_find (find_eq_ok_iff.mpr ⟨reached, found⟩)
              simp [missing] at foundToo
          | none => exact Or.inl ⟨.notFound, by simp only [found]⟩

/-- What is written where nothing was found overwrites nothing.  At most there is a new file where
the path leads to, with a beginning of the content, and with all of it unless the writing failed. -/
theorem write_adds (missing : files.found? user directory path = none) :
    Adds (fun added node =>
        (files.write user room directory path content).1.LeadsTo user directory path added ∧
          ∃ kept, kept <+: content ∧ node = newFile user kept ∧
            ((files.write user room directory path content).2 = none → kept = content)) files
      (files.write user room directory path content).1 := by
  rcases write_cases missing with ⟨error, same⟩ | ⟨above, name, walked, written⟩
  · rw [same]
    exact Adds.refl _ files
  · rw [written]
    refine (put_adds walked _).mono ?_
    rintro added node ⟨leads, isFile⟩
    exact ⟨leads, _, stored_isPrefix room content, isFile, stored_of_success⟩

end Files

theorem Host.found?_eq_none {host : Host} {path : Path}
    (missing : host.pathExists path = false) : host.found? path = none := by
  rwa [pathExists, Option.isSome_eq_false_iff, Option.isNone_iff_eq_none] at missing

namespace Example

variable {host : Host}

theorem create_of_exists (found : host.pathExists (.ofText name) = true) :
    create host = (host.files, some .alreadyExists) := by
  rw [create, if_pos found]

/-- How the example is written where nothing is found. -/
def written (host : Host) : Files × Option FileError :=
  host.files.write host.user host.room host.directory (.ofText name) (Utf8.encode text)

theorem create_of_missing (missing : host.pathExists (.ofText name) = false) :
    create host = ((written host).1, (written host).2.map .unwritable) := by
  rw [create, missing, if_neg Bool.false_ne_true]
  rfl

/-- What may have been made of the example, by what came of writing it: all of the text if that went
well, and a beginning if it failed. -/
def IsMade (user : User) (node : FileNode) : Option Refusal → Prop
  | none => node = Files.newFile user (Utf8.encode text)
  | some .alreadyExists => False
  | some (.unwritable _) => ∃ kept, kept <+: Utf8.encode text ∧ node = Files.newFile user kept

/-- Whether the example is written or not, there is at most a new file where its name leads to. -/
theorem create_adds (host : Host) :
    Files.Adds (fun added node =>
        (create host).1.LeadsTo host.user host.directory (.ofText name) added ∧
          IsMade host.user node (create host).2) host.files (create host).1 := by
  cases found : host.pathExists (.ofText name) with
  | true =>
      rw [create_of_exists found]
      exact Files.Adds.refl _ host.files
  | false =>
      rw [create_of_missing found]
      refine (Files.write_adds (Host.found?_eq_none found)).mono ?_
      rintro added node ⟨leads, kept, beginning, isFile, whole⟩
      refine ⟨leads, ?_⟩
      cases failed : (written host).2 with
      | none =>
          rw [whole failed] at isFile
          exact isFile
      | some cause => exact ⟨kept, beginning, isFile⟩

/-- What comes of a run for the example, by what came of writing that. -/
def outcome : Option Refusal → Outcome
  | none => .printed (Command.lines [Text.lit "Created " ++ name])
  | some refusal => .failed refusal.message

theorem execute_init (host : Host) (stdin : Bytes) :
    Command.init.execute host stdin = (outcome (create host).2, (create host).1) := by
  rw [Command.execute]
  cases create host with
  | mk files refusal => cases refusal <;> rfl

end Example

end RunLine
