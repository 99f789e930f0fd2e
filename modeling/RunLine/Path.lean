import RunLine.Text.Utf8
/-!
# Paths

A path is a string of bytes in which slashes separate components.  Joining keeps both texts as they
are written; components leave out what does not change the place a path leads to: repeated and
trailing slashes, and every `.` but a leading one.  Each component is found together with the offset
at which it ends, so that the parent of a path is a piece of the path itself.
-/

namespace RunLine

/-- The bytes of a path as they are written. -/
structure Path where
  bytes : Bytes
  deriving DecidableEq, Repr

namespace Path

/-- The byte between components. -/
def slash : UInt8 := 47

/-- The byte of which `.` and `..` are made. -/
def dot : UInt8 := 46

def ofText (text : Text) : Path := ⟨Utf8.encode text⟩

def lit (literal : String) : Path := ofText literal.toList

def toText? (path : Path) : Option Text := Utf8.decode? path.bytes

/-- A path as it is shown to a reader. -/
def display (path : Path) : Text := path.toText?.getD (Utf8.repair path.bytes)

/-- Whether the path starts at the root. -/
def isAbsolute (path : Path) : Bool := path.bytes.head? == some slash

/-- The right path under the left one, both as they are written.  An absolute right path stands
alone, and an empty one leaves the left path with a slash at its end. -/
def join (base path : Path) : Path :=
  if path.isAbsolute then path
  else if base.bytes.isEmpty || base.bytes.getLast? == some slash then ⟨base.bytes ++ path.bytes⟩
  else ⟨base.bytes ++ slash :: path.bytes⟩

/-- What a path is made of. -/
inductive Component where
  | root
  /-- A leading `.`. -/
  | here
  | up
  | name (bytes : Bytes)
  deriving DecidableEq, Repr

namespace Component

def path : Component → Path
  | root => ⟨[slash]⟩
  | here => ⟨[dot]⟩
  | up => ⟨[dot, dot]⟩
  | name bytes => ⟨bytes⟩

/-- What a piece between slashes says, unless it is empty or `.`. -/
def ofPiece? (piece : Bytes) : Option Component :=
  if piece = [] ∨ piece = [dot] then none
  else if piece = [dot, dot] then some up
  else some (name piece)

end Component

/-- Pieces with the offsets at which they end, the first one starting at an offset, with one slash
between neighbours. -/
def withStops : Nat → List Bytes → List (Bytes × Nat)
  | _, [] => []
  | start, piece :: rest =>
      (piece, start + piece.length) :: withStops (start + piece.length + 1) rest

/-- The components of a path with the offsets at which they end. -/
def located (path : Path) : List (Component × Nat) :=
  let pieces := path.bytes.splitOn slash
  let ordinary := (withStops 0 pieces).filterMap fun piece =>
    (Component.ofPiece? piece.1).map (·, piece.2)
  if path.isAbsolute then (.root, 1) :: ordinary
  else if pieces.head? = some [dot] then (.here, 1) :: ordinary
  else ordinary

def components (path : Path) : List Component := path.located.map (·.1)

/-- The last component, if it is a name. -/
def fileName? (path : Path) : Option Bytes :=
  match path.components.getLast? with
  | some (.name bytes) => some bytes
  | _ => none

/-- The path without its last component.  The root and the empty path have no parent. -/
def parent? (path : Path) : Option Path :=
  match path.located.reverse with
  | [] => none
  | (.root, _) :: _ => none
  | [_] => some ⟨[]⟩
  | _ :: (_, stop) :: _ => some ⟨path.bytes.take stop⟩

/-- Parents of parents, at most so many. -/
def ancestorsWithin : Nat → Path → List Path
  | 0, path => [path]
  | bound + 1, path =>
      match path.parent? with
      | none => [path]
      | some parent => path :: ancestorsWithin bound parent

/-- The path itself, its parent, the parent's parent and so on.  A parent is a proper beginning of
its path, so the length of the path bounds their number. -/
def ancestors (path : Path) : List Path := ancestorsWithin path.bytes.length path

/-- A path with components put under it one by one. -/
def extend (base : Path) (components : List Component) : Path :=
  components.foldl (fun path component => path.join component.path) base

/-- The components of a path without a leading `.`. -/
def properComponents (path : Path) : List Component := path.components.filter (· ≠ .here)

/-- A relative path under a directory, component by component. -/
def under (path directory : Path) : Path :=
  if path.isAbsolute then path else directory.extend path.properComponents

/-- What a path asks of a walk, piece by piece. -/
inductive Step where
  /-- Start at the root. -/
  | root
  | stay
  | up
  | name (bytes : Bytes)
  /-- What is reached has to be a directory. -/
  | close
  deriving DecidableEq, Repr

/-- The step of a piece between slashes; an empty one is none. -/
def Step.ofPiece? (piece : Bytes) : Option Step :=
  if piece = [] then none
  else if piece = [dot] then some .stay
  else if piece = [dot, dot] then some .up
  else some (.name piece)

/-- The steps of a walk along the path.  A slash at the end asks for a directory. -/
def steps (path : Path) : List Step :=
  (if path.isAbsolute then [.root] else []) ++ (path.bytes.splitOn slash).filterMap Step.ofPiece? ++
    if path.bytes.getLast? = some slash then [.close] else []

end Path

end RunLine
