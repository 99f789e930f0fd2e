import RunLine.Files
/-!
# Walking along a path

A walk starts in a directory and takes the steps of a path one by one.  A link met on the way is
replaced by its target, and at most forty links are followed.  The last name may be vacant: then the
walk ends in the directory that lacks it.  Paths that are empty or hold a zero byte lead nowhere, and
paths and names that are too long are refused.  Names are looked for only in directories where the
user may do so.
-/

namespace RunLine

/-- Where a walk ends. -/
inductive Arrival where
  /-- At a place where something is found. -/
  | present (place : Place)
  /-- In a directory that has no entry of the last name. -/
  | vacant (directory : Place) (name : FileName)
  deriving DecidableEq, Repr

/-- How far a walk comes without following a link. -/
inductive Stride where
  | arrival (arrival : Arrival)
  /-- A link in a directory, and the steps after it. -/
  | link (directory : Place) (target : Path) (rest : List Path.Step)
  | failure (error : FileError)
  deriving DecidableEq, Repr

/-- What a walk is for; this decides how its last name is taken. -/
inductive Purpose where
  /-- To find what a path leads to: a link is followed. -/
  | target
  /-- To find the entry itself: a link is the end. -/
  | entry
  /-- To open a file, which may be new: a link is followed, and no directory may be asked for. -/
  | file
  deriving DecidableEq, Repr

/-- Whether a link at the very end is followed. -/
def Purpose.follows : Purpose → Bool
  | target | file => true
  | entry => false

namespace Files

/-- How many links one walk follows. -/
def linkLimit : Nat := 40

/-- How many bytes a name may have. -/
def nameLimit : Nat := 255

/-- How many bytes a path may have. -/
def pathLimit : Nat := 4095

/-- The end of a walk at a name that a directory lacks.  Nothing can be made in a directory that was
removed. -/
def vacancy (here : Place) (name : FileName) : Stride :=
  if here.isOrphan then .failure .notFound else .arrival (.vacant here name)

/-- The steps up to the next link. -/
def stride (files : Files) (user : User) (purpose : Purpose) : Place → List Path.Step → Stride
  | here, [] => .arrival (.present here)
  | here, step :: rest =>
      match step with
      | .root => stride files user purpose [] rest
      | _ =>
          match files.node? here with
          | none => .failure .notFound
          | some (.directory permissions) =>
              -- A slash at the end asks for the directory only, not for anything in it.
              if step ≠ .close ∧ !(FileNode.directory permissions).permits user .execute then
                .failure .permissionDenied
              else
                match step with
                | .root | .stay | .close => stride files user purpose here rest
                | .up => stride files user purpose here.tail rest
                | .name name =>
                    if purpose = .file ∧ rest = [.close] then .failure .isDirectory
                    else if nameLimit < name.length ∧ !here.isOrphan then .failure .nameTooLong
                    else
                      match files.node? (name :: here) with
                      | none => if rest.isEmpty then vacancy here name else .failure .notFound
                      | some (.link target) =>
                          if rest.isEmpty && !purpose.follows then
                            .arrival (.present (name :: here))
                          else .link here target rest
                      | some _ => stride files user purpose (name :: here) rest
          | some _ => .failure .notDirectory

/-- The steps to the end, where at most so many links are followed, and how many may be followed
after that. -/
def walkWithin (files : Files) (user : User) (purpose : Purpose) (links : Nat) (here : Place)
    (steps : List Path.Step) : Except FileError (Arrival × Nat) :=
  match stride files user purpose here steps with
  | .arrival arrival => .ok (arrival, links)
  | .failure error => .error error
  | .link directory target rest =>
      match links with
      | 0 => .error .tooManyLinks
      | links + 1 => walkWithin files user purpose links directory (target.steps ++ rest)

/-- Where a path leads from a directory. -/
def walk (files : Files) (user : User) (purpose : Purpose) (directory : Place) (path : Path) :
    Except FileError Arrival :=
  if path.bytes.isEmpty || path.bytes.contains 0 then .error .notFound
  else if pathLimit < path.bytes.length then .error .nameTooLong
  else (walkWithin files user purpose linkLimit directory path.steps).map (·.1)

/-- What a path leads to, links followed. -/
def find (files : Files) (user : User) (directory : Place) (path : Path) :
    Except FileError (Place × FileNode) := do
  match ← files.walk user .target directory path with
  | .vacant _ _ => .error .notFound
  | .present place =>
      match files.node? place with
      | none => .error .notFound
      | some node => .ok (place, node)

/-- What a path leads to, if it leads anywhere. -/
def found? (files : Files) (user : User) (directory : Place) (path : Path) : Option FileNode :=
  match files.find user directory path with
  | .ok (_, node) => some node
  | .error _ => none

end Files

/-- The content of a node that a user reads. -/
def FileNode.read (user : User) (node : FileNode) : Except FileError Bytes :=
  if !node.permits user .read then .error .permissionDenied
  else
    match node with
    | directory _ => .error .isDirectory
    | device _ => .ok []
    | file _ (some content) => .ok content
    | file _ none => .error .unreadable
    | link _ => .error .tooManyLinks

namespace Files

/-- The content of what a path leads to. -/
def read (files : Files) (user : User) (directory : Place) (path : Path) :
    Except FileError Bytes := do
  let (_, node) ← files.find user directory path
  node.read user

def readText (files : Files) (user : User) (directory : Place) (path : Path) :
    Except FileError Text := do
  match Utf8.decode? (← files.read user directory path) with
  | none => .error .notText
  | some text => .ok text

end Files

end RunLine
