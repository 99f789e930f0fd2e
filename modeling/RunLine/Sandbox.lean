import RunLine.Search
import RunLine.Settings
/-!
# The sandbox

What has to be known of the sandbox to rewrite a line for it: the texts that its launcher expects, an
answer for every command head, and an answer for every token that may name a file.  On a host the
answers come from files and settings.
-/

namespace RunLine

/-- What the launcher expects to find in a line. -/
structure Conventions where
  launcher : Text
  pathMarker : Text
  nullDevice : Text
  nullReplacement : Text
  deriving DecidableEq, Repr

def Settings.conventions (settings : Settings) : Conventions :=
  ⟨settings.launcher, settings.pathMarker, settings.nullDevice, settings.nullReplacement⟩

/-- Whether a token names a file. -/
abbrev Detector := Text → Bool

/-- On a host a token names a file if it leads to a regular file, or if it holds the hint of files
yet to be made. -/
def Host.namesFile (host : Host) (hint : Text) : Detector := fun token =>
  host.isFile (.ofText token) || (!hint.isEmpty && Text.holds hint token)

/-- The sandbox as a line of commands sees it: how it is entered, which binaries are its own, and
which tokens name files. -/
structure Sandbox where
  conventions : Conventions
  classifier : Classifier
  namesFile : Detector

namespace Sandbox

/-- The sandbox that asks the files of a host. -/
def ofHost (host : Host) (settings : Settings) : Sandbox where
  conventions := settings.conventions
  classifier := host.classify settings.searchBytes settings.osAbi
  namesFile := host.namesFile settings.tempHint

end Sandbox

end RunLine
