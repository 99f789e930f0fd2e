import RunLine.Json.Reader
import RunLine.Text.Utf8
/-!
# Scripts from raw input

A script arrives as a JSON value or as bytes.  Only a string is a script; anything else is refused
by the name of what was found.
-/

namespace RunLine

/-- What was found in place of a string. -/
inductive InputKind where
  | null
  | boolean
  | float
  | integer
  | list
  | mapping
  | bytes
  deriving DecidableEq, Repr

def InputKind.name : InputKind → Text
  | null => Text.lit "null"
  | boolean => Text.lit "a boolean"
  | float => Text.lit "a float"
  | integer => Text.lit "an integer"
  | list => Text.lit "a list"
  | mapping => Text.lit "a mapping"
  | bytes => Text.lit "non-UTF-8 bytes"

/-- How the refusal of a kind is worded. -/
def InputKind.message (kind : InputKind) : Text :=
  Text.lit "invalid input: expected a string, got " ++ kind.name

def Json.script : Json → Except InputKind Text
  | .string text => .ok text
  | .null => .error .null
  | .boolean _ => .error .boolean
  | .float _ _ _ => .error .float
  | .integer _ => .error .integer
  | .array _ => .error .list
  | .object _ => .error .mapping

def scriptOfBytes (bytes : Bytes) : Except InputKind Text :=
  match Utf8.decode? bytes with
  | none => .error .bytes
  | some text => .ok text

end RunLine
