import RunLine.Elf
/-!
# Settings

What can be configured, and how layers of configuration combine.  A layer sets some of the seven
settings; where several layers set one, the upper layer wins, also with an empty text.  What no layer
sets has a default.
-/

namespace RunLine

/-- Settings that a source of configuration makes; the others are left open. -/
structure Layer where
  launcher : Option Text
  pathMarker : Option Text
  nullDevice : Option Text
  nullReplacement : Option Text
  tempHint : Option Text
  osAbi : Option UInt8
  searchPath : Option Text
  deriving DecidableEq, Repr

/-- The settings in force. -/
structure Settings where
  /-- The command that starts sandboxed binaries. -/
  launcher : Text
  /-- What marks a file argument for the launcher. -/
  pathMarker : Text
  /-- The null device of the host, and what it is called in the sandbox. -/
  nullDevice : Text
  nullReplacement : Text
  /-- Arguments that hold this text count as files although they do not exist yet. -/
  tempHint : Text
  /-- The OS/ABI number of sandboxed binaries. -/
  osAbi : UInt8
  /-- Where command heads are searched, unless it is the search path of the environment. -/
  searchPath : Option Text
  deriving DecidableEq, Repr

namespace Layer

/-- The layer that sets nothing. -/
def empty : Layer := ⟨none, none, none, none, none, none, none⟩

/-- Two layers as one. -/
def atop (upper lower : Layer) : Layer where
  launcher := upper.launcher.or lower.launcher
  pathMarker := upper.pathMarker.or lower.pathMarker
  nullDevice := upper.nullDevice.or lower.nullDevice
  nullReplacement := upper.nullReplacement.or lower.nullReplacement
  tempHint := upper.tempHint.or lower.tempHint
  osAbi := upper.osAbi.or lower.osAbi
  searchPath := upper.searchPath.or lower.searchPath

/-- The settings of a layer, with defaults for what it leaves open.  An empty search path means the
one of the environment. -/
def settings (layer : Layer) : Settings where
  launcher := layer.launcher.getD (Text.lit "zvsh")
  pathMarker := layer.pathMarker.getD (Text.lit "@")
  nullDevice := layer.nullDevice.getD (Text.lit "/dev/null")
  nullReplacement := layer.nullReplacement.getD (Text.lit "@null")
  tempHint := layer.tempHint.getD (Text.lit ".tmp")
  osAbi := layer.osAbi.getD Elf.sandboxAbi
  searchPath := layer.searchPath.filter fun list => !list.isEmpty

end Layer

/-- Settings made for a single run. -/
structure Overrides where
  launcher : Option Text
  searchPath : Option Text
  deriving DecidableEq, Repr

namespace Overrides

/-- The overrides that change nothing. -/
def none : Overrides := ⟨.none, .none⟩

def layer (overrides : Overrides) : Layer :=
  { Layer.empty with launcher := overrides.launcher, searchPath := overrides.searchPath }

end Overrides

/-- The configured search path as the bytes that a search takes. -/
def Settings.searchBytes (settings : Settings) : Option Bytes := settings.searchPath.map Utf8.encode

end RunLine
