import RunLine.Classification
import RunLine.Host
/-!
# ELF identification

The first eight bytes of an ELF file: four magic bytes, then the file class, the data encoding, the
format version and the OS/ABI number.  Binaries of the sandbox are told apart by the last of them.
-/

namespace RunLine.Elf

/-- The OS/ABI number of sandboxed binaries unless another one is configured. -/
def sandboxAbi : UInt8 := 123

/-- The beginning of an ELF file. -/
structure Ident where
  magic : Bytes
  fileClass : UInt8
  encoding : UInt8
  version : UInt8
  osAbi : UInt8
  deriving DecidableEq, Repr

namespace Ident

/-- How many bytes an identification takes. -/
def length : Nat := 8

/-- The identification at the front of a content; nothing is asked of its values. -/
def ofBytes? : Bytes → Option Ident
  | m0 :: m1 :: m2 :: m3 :: fileClass :: encoding :: version :: osAbi :: _ =>
      some ⟨[m0, m1, m2, m3], fileClass, encoding, version, osAbi⟩
  | _ => none

/-- The identification of the file a path leads to. -/
def read (host : Host) (path : Path) : Except Unclassified Ident :=
  match host.read path with
  | .error _ => .error (.unreadable path)
  | .ok content =>
      match ofBytes? content with
      | none => .error (.shortHeader path)
      | some ident => .ok ident

end Ident

end RunLine.Elf
