import RunLine.Files.Walk
/-!
# Changing files

Files and directories come into being at vacant names only, in directories where the user may write;
nothing is ever removed.  A file that is opened for writing through a dangling link comes into being
where the link leads.  Writing fails where the storage is full, and then the beginning of the content
is written all the same.
-/

namespace RunLine.Files

/-- The permission bits that are asked for a new file. -/
def newFileMode : Nat := 0o666

/-- The permission bits that are asked for a new directory. -/
def newDirectoryMode : Nat := 0o777

def newFile (user : User) (content : Bytes) : FileNode :=
  .file (user.made newFileMode) (some content)

def newDirectory (user : User) : FileNode := .directory (user.made newDirectoryMode)

/-- The tree after a path was opened for appending nothing. -/
def touch (files : Files) (user : User) (directory : Place) (path : Path) :
    Except FileError Files := do
  match ← files.walk user .file directory path with
  | .vacant place name =>
      if files.permits user .write place then .ok (files.put (name :: place) (newFile user []))
      else .error .permissionDenied
  | .present place =>
      if files.isDirectory place then .error .isDirectory
      else if files.permits user .write place then .ok files
      else .error .permissionDenied

/-- How much of a content there is room for, and what is said where something is left over. -/
def stored (room : Option Nat) (content : Bytes) : Bytes × Option FileError :=
  match room with
  | none => (content, none)
  | some room =>
      (content.take room, if (content.drop room).isEmpty then none else some .noSpace)

/-- The tree after a path was written with a content, and why that failed if it did. -/
def write (files : Files) (user : User) (room : Option Nat) (directory : Place) (path : Path)
    (content : Bytes) : Files × Option FileError :=
  let (kept, failure) := stored room content
  match files.walk user .file directory path with
  | .error error => (files, some error)
  | .ok (.vacant place name) =>
      if files.permits user .write place then
        (files.put (name :: place) (newFile user kept), failure)
      else (files, some .permissionDenied)
  | .ok (.present place) =>
      match files.node? place with
      | none => (files, some .notFound)
      | some (.directory _) => (files, some .isDirectory)
      | some node =>
          if !node.permits user .write then (files, some .permissionDenied)
          else
            match node with
            | .file permissions _ => (files.put place (.file permissions (some kept)), failure)
            | _ => (files, none)

/-- The tree after the directories along some steps were made where there was nothing, as far as that
went, and whether it went to the end.  A link that leads nowhere is in the way. -/
def makeAlong (files : Files) (user : User) (links : Nat) (here : Place) :
    List Path.Step → Files × Bool
  | [] => (files, true)
  | step :: rest =>
      match files.walkWithin user .target links here [step] with
      | .ok (.present place, links) =>
          if files.isDirectory place then files.makeAlong user links place rest else (files, false)
      | _ =>
          match files.stride user .entry here [step] with
          | .arrival (.vacant directory name) =>
              if files.permits user .write directory then
                (files.put (name :: directory) (newDirectory user)).makeAlong user links
                  (name :: directory) rest
              else (files, false)
          | _ => (files, false)

/-- The tree after a directory was made together with those above it.  Nothing is made for a path
that is too long. -/
def makeDirectories (files : Files) (user : User) (directory : Place) (path : Path) :
    Files × Bool :=
  if pathLimit < path.bytes.length || path.bytes.contains 0 then (files, false)
  else files.makeAlong user linkLimit directory path.steps

end RunLine.Files
