import RunLine.Path
/-!
# Classification

A command head is either a sandboxed binary, which the launcher has to start, or a host tool, which
runs as it is.  A classifier answers for a head or says why it cannot; what follows from a failure is
not its business.
-/

namespace RunLine

/-- What kind of binary a command head is. -/
inductive BinaryClass where
  /-- Built for the sandbox; the launcher starts it. -/
  | sandboxed
  /-- Anything else; it runs on the host. -/
  | host
  deriving DecidableEq, Repr

def BinaryClass.name : BinaryClass → Text
  | sandboxed => Text.lit "sandboxed"
  | host => Text.lit "host"

/-- Why a head cannot be classified. -/
inductive Unclassified where
  /-- No executable of the name was found. -/
  | notFound (name : Text)
  /-- The file cannot be opened or read. -/
  | unreadable (path : Path)
  /-- The file is shorter than an identification. -/
  | shortHeader (path : Path)
  deriving DecidableEq, Repr

/-- The wording of a cause. -/
def Unclassified.message : Unclassified → Text
  | notFound name => Text.lit "executable '" ++ name ++ Text.lit "' not found"
  | unreadable path => Text.lit "failed to read header of " ++ path.display
  | shortHeader path => path.display ++ Text.lit " is shorter than an ELF ident (8 bytes)"

/-- An answer for every command head. -/
abbrev Classifier := Text → Except Unclassified BinaryClass

/-- Whether a classifier takes a head for a sandboxed binary. -/
def Classifier.isSandboxed (classifier : Classifier) (head : Text) : Bool :=
  match classifier head with
  | .ok .sandboxed => true
  | _ => false

end RunLine
