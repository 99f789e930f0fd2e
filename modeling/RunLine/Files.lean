import RunLine.Files.Permission
import RunLine.Path
/-!
# Files

A tree of files as a list of places with what is found there.  A place is the chain of names from a
directory entry up to the root, innermost first, with no links in between; paths lead to places
through links.  The root is always a directory.
-/

namespace RunLine

/-- The name of a directory entry. -/
abbrev FileName := Bytes

/-- The names that lead to an entry, innermost first; the root has none. -/
abbrev Place := List FileName

/-- The name of a directory that was removed while it was in use.  No path spells a slash within a
name, so nothing leads to it any more. -/
def orphanName (name : FileName) : FileName := Path.slash :: name

/-- Whether a place lies in a directory that was removed while it was in use. -/
def Place.isOrphan (place : Place) : Bool := place.any (·.contains Path.slash)

/-- What is found at a place. -/
inductive FileNode where
  | directory (permissions : Permissions)
  /-- A regular file.  Reading fails where there is no content. -/
  | file (permissions : Permissions) (content : Option Bytes)
  /-- A device, which is no regular file and at whose end every reader stands. -/
  | device (permissions : Permissions)
  | link (target : Path)
  deriving DecidableEq, Repr

namespace FileNode

def isFile : FileNode → Bool
  | file _ _ => true
  | _ => false

def isDirectory : FileNode → Bool
  | directory _ => true
  | _ => false

/-- Whether a user may have an access to a node.  A privileged user may do anything, except that a
file has to be executable for someone.  Links are open to everyone. -/
def permits (user : User) (access : Access) : FileNode → Bool
  | directory permissions => user.privileged || permissions.allows user access
  | file permissions _ | device permissions =>
      permissions.allows user access ||
        (user.privileged && (access != .execute || permissions.isExecutable))
  | link _ => true

end FileNode

/-- Why a path leads nowhere, or why what is found there cannot be used. -/
inductive FileError where
  | notFound
  | notDirectory
  | isDirectory
  | tooManyLinks
  | nameTooLong
  | alreadyExists
  | permissionDenied
  | noSpace
  | unreadable
  | notText
  deriving DecidableEq, Repr

/-- The wording of a cause. -/
def FileError.message : FileError → Text
  | notFound => Text.lit "No such file or directory (os error 2)"
  | notDirectory => Text.lit "Not a directory (os error 20)"
  | isDirectory => Text.lit "Is a directory (os error 21)"
  | tooManyLinks => Text.lit "Too many levels of symbolic links (os error 40)"
  | nameTooLong => Text.lit "File name too long (os error 36)"
  | alreadyExists => Text.lit "File exists (os error 17)"
  | permissionDenied => Text.lit "Permission denied (os error 13)"
  | noSpace => Text.lit "No space left on device (os error 28)"
  | unreadable => Text.lit "Input/output error (os error 5)"
  | notText => Text.lit "stream did not contain valid UTF-8"

/-- A place after its depth, by which most places are told apart at once. -/
def Place.key (place : Place) : Nat × Place := (place.length, place)

/-- A tree of files. -/
structure Files where
  /-- The permissions of the root. -/
  root : Permissions
  /-- What is found below the root, by the keys of places. -/
  entries : List ((Nat × Place) × FileNode)
  deriving DecidableEq, Repr

namespace Files

/-- A tree with nothing but the root. -/
def empty : Files := ⟨.ofMode 0o755, []⟩

/-- All places but the root, with what is found there. -/
def toList (files : Files) : List (Place × FileNode) :=
  files.entries.map fun entry => (entry.1.2, entry.2)

/-- What is found at a place. -/
def node? (files : Files) (place : Place) : Option FileNode :=
  if place = [] then some (.directory files.root) else files.entries.lookup place.key

def isDirectory (files : Files) (place : Place) : Bool :=
  (files.node? place).any FileNode.isDirectory

/-- Whether a user may have an access to what is found at a place. -/
def permits (files : Files) (user : User) (access : Access) (place : Place) : Bool :=
  (files.node? place).any (FileNode.permits user access)

/-- The tree with a node at a place, instead of what was found there. -/
def put (files : Files) (place : Place) (node : FileNode) : Files :=
  let key := place.key
  { files with entries := (key, node) :: files.entries.filter (·.1 ≠ key) }

theorem lookup_filter_ne {key other : Nat × Place} (different : other ≠ key)
    (entries : List ((Nat × Place) × FileNode)) :
    (entries.filter (·.1 ≠ key)).lookup other = entries.lookup other := by
  induction entries with
  | nil => rfl
  | cons entry rest ih =>
      rcases entry with ⟨held, node⟩
      rw [List.lookup_cons, ← ih]
      by_cases same : held = key
      · subst same
        have skipped : (other == held) = false := by simpa using different
        simp [skipped]
      · simp [same, List.lookup_cons]

@[simp] theorem node?_put_self (files : Files) {place : Place} (proper : place ≠ []) (node : FileNode) :
    (files.put place node).node? place = some node := by
  simp [node?, put, proper]

theorem node?_put_of_ne (files : Files) {place other : Place} (different : other ≠ place)
    (node : FileNode) : (files.put place node).node? other = files.node? other := by
  have unlike : other.key ≠ place.key := fun same => different (congrArg Prod.snd same)
  have skipped : (other.key == place.key) = false := by simpa using unlike
  have kept := lookup_filter_ne unlike files.entries
  simp only [node?, put, List.lookup_cons, skipped, kept]

end Files

end RunLine
