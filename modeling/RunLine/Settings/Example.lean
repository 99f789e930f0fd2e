import RunLine.Files.Change
import RunLine.Host
/-!
# The example file

A project file in which every setting is named and explained in comments, and none is made.  It is
written into the working directory unless something is there.
-/

namespace RunLine.Example

def lines : List Text := [
  Text.lit "# lit-sandbox configuration",
  Text.lit "#",
  Text.lit "# All keys are optional. Project values (.lit-sandbox.yaml, nearest parent",
  Text.lit "# directory wins) override the global ~/.config/lit-sandbox/config.yaml.",
  Text.lit "",
  Text.lit "# Wrapper command prepended to sandboxed binaries.",
  Text.lit "# launcher: zvsh",
  Text.lit "",
  Text.lit "# Prefix marking file arguments for the wrapper's filesystem mapping.",
  Text.lit "# path_marker: \"@\"",
  Text.lit "",
  Text.lit "# Null device on the host and its name inside the sandbox.",
  Text.lit "# null_device: /dev/null",
  Text.lit "# null_replacement: \"@null\"",
  Text.lit "",
  Text.lit "# Arguments containing this substring are treated as files even when they do",
  Text.lit "# not exist yet (lit temporary outputs).",
  Text.lit "# temp_hint: .tmp",
  Text.lit "",
  Text.lit "# ELF OS/ABI byte identifying sandboxed binaries (123 = NaCl).",
  Text.lit "# os_abi: 123",
  Text.lit "",
  Text.lit "# Directories searched for command heads, PATH syntax. Defaults to $PATH.",
  Text.lit "# search_path: /opt/llvm-nacl/bin:/usr/bin"]

def text : Text := lines.flatMap (· ++ ['\n'])

def name : Text := Text.lit ".lit-sandbox.yaml"

/-- Why no example was written. -/
inductive Refusal where
  | alreadyExists
  | unwritable (cause : FileError)
  deriving DecidableEq, Repr

/-- The wording of a cause. -/
def Refusal.message : Refusal → Text
  | alreadyExists => name ++ Text.lit " already exists"
  | unwritable cause => cause.message

/-- The files with the example among them, and why it is not there if it is not. -/
def create (host : Host) : Files × Option Refusal :=
  if host.pathExists (.ofText name) then (host.files, some .alreadyExists)
  else
    let (files, failure) :=
      host.files.write host.user host.room host.directory (.ofText name) (Utf8.encode text)
    (files, failure.map .unwritable)

end RunLine.Example
