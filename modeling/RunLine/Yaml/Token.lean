import RunLine.Text
/-!
# YAML tokens

The tokens of a text.  Indentation has become brackets of its own: the start of a block collection
and its end are tokens, as the brackets of a flow collection are.
-/

namespace RunLine.Yaml

/-- How a scalar is written. -/
inductive ScalarForm where
  /-- Without quotes and without a block indicator. -/
  | plain
  | quoted
  /-- A block whose line ends are kept. -/
  | literal
  /-- A block whose line ends are folded. -/
  | folded
  deriving DecidableEq, Repr

/-- A token. -/
inductive Token where
  | versionDirective (major minor : Nat)
  | tagDirective (handle expansion : Text)
  | documentStart
  | documentEnd
  | blockSequenceStart
  | blockMappingStart
  | blockEnd
  | flowSequenceStart
  | flowSequenceEnd
  | flowMappingStart
  | flowMappingEnd
  /-- The dash of an item. -/
  | blockEntry
  /-- The comma between items. -/
  | flowEntry
  | key
  | value
  | alias (name : Text)
  | anchor (name : Text)
  | tag (handle suffix : Text)
  | scalar (form : ScalarForm) (text : Text)
  deriving DecidableEq, Repr

end RunLine.Yaml
