import RunLine.Settings
import RunLine.Yaml.Document
/-!
# Layers from YAML

A layer is written as a mapping from the names of settings to their values.  Other names are ignored,
a name given twice is an error, and an empty document sets nothing.  Texts are taken as they are
written; a plain null, and nothing at all, leave a setting open.
-/

namespace RunLine

/-- The settings by their names in a file. -/
inductive SettingKey where
  | launcher
  | pathMarker
  | nullDevice
  | nullReplacement
  | tempHint
  | osAbi
  | searchPath
  deriving DecidableEq, Repr

def SettingKey.ofText? (name : Text) : Option SettingKey :=
  [(Text.lit "launcher", launcher), (Text.lit "path_marker", pathMarker),
    (Text.lit "null_device", nullDevice), (Text.lit "null_replacement", nullReplacement),
    (Text.lit "temp_hint", tempHint), (Text.lit "os_abi", osAbi),
    (Text.lit "search_path", searchPath)].lookup name

namespace Layer

open Yaml (Node ScalarForm)

/-- Whether a plain text means that nothing is set. -/
def isNull (text : Text) : Bool :=
  text == ['~'] || text == Text.lit "null" || text == Text.lit "Null" || text == Text.lit "NULL"

def nullTag : Text := Text.lit "tag:yaml.org,2002:null"

def integerTag : Text := Text.lit "tag:yaml.org,2002:int"

/-- Whether a scalar sets a value.  A plain scalar tagged as null has to be one; with any other tag,
and be it a lone exclamation mark, even null is a value. -/
def setsValue? (tag : Option Text) (form : ScalarForm) (text : Text) : Option Bool :=
  if form ≠ .plain then some true
  else
    match tag with
    | some tag => if tag ≠ nullTag then some true else if isNull text then some false else none
    | none => some !(text.isEmpty || isNull text)

/-- A value as a reader of scalars takes it, unless the scalar leaves the setting open. -/
def optional? {α : Type} (read : Option Text → ScalarForm → Text → Option α) :
    Node → Option (Option α)
  | .scalar _ tag form text => do
      if ← setsValue? tag form text then (read tag form text).map some else some none
  | _ => none

/-- Digits that do not count as a number because they start with a needless zero. -/
def isPadded (digits : Text) : Bool :=
  1 < digits.length && digits.head? == some '0' && digits.all Text.isDigit

/-- The number that a text with a mark of its base writes. -/
def marked? : Text → Option Nat
  | '0' :: 'x' :: digits => Text.number? 16 digits
  | '0' :: 'o' :: digits => Text.number? 8 digits
  | '0' :: 'b' :: digits => Text.number? 2 digits
  | _ => none

/-- The number that a text writes: decimal, or with a mark of its base; a plus sign may stand in
front. -/
def number? (text : Text) : Option Nat :=
  let unsigned :=
    match text with
    | '+' :: rest => rest
    | _ => text
  match marked? unsigned with
  | some number => some number
  | none => if isPadded unsigned then none else Text.number? 10 unsigned

/-- Whether a scalar may write a number: a plain one, or a literal block tagged as an integer. -/
def isNumeric (tag : Option Text) (form : ScalarForm) : Bool :=
  form == .plain || (form == .literal && tag == some integerTag)

def byte? (tag : Option Text) (form : ScalarForm) (text : Text) : Option UInt8 := do
  if !isNumeric tag form then none
  let number ← number? text
  if number < 256 then some number.toUInt8 else none

def text? (_ : Option Text) (_ : ScalarForm) (text : Text) : Option Text := some text

def set? (layer : Layer) (key : SettingKey) (value : Node) : Option Layer :=
  match key with
  | .launcher => (optional? text? value).map fun launcher => { layer with launcher }
  | .pathMarker => (optional? text? value).map fun pathMarker => { layer with pathMarker }
  | .nullDevice => (optional? text? value).map fun nullDevice => { layer with nullDevice }
  | .nullReplacement =>
      (optional? text? value).map fun nullReplacement => { layer with nullReplacement }
  | .tempHint => (optional? text? value).map fun tempHint => { layer with tempHint }
  | .osAbi => (optional? byte? value).map fun osAbi => { layer with osAbi }
  | .searchPath => (optional? text? value).map fun searchPath => { layer with searchPath }

def keyText? : Node → Option Text
  | .scalar _ _ _ text => some text
  | _ => none

/-- A layer with the settings of the pairs of a mapping, where some settings were made before. -/
def setPairs? (root : Node) : List SettingKey → Layer → List (Node × Node) → Option Layer
  | _, layer, [] => some layer
  | made, layer, (key, value) :: rest => do
      let name ← (root.target? key).bind keyText?
      match SettingKey.ofText? name with
      | none => setPairs? root made layer rest
      | some key =>
          if key ∈ made then none
          else
            let layer ← layer.set? key (← root.target? value)
            setPairs? root (key :: made) layer rest

/-- The layer that a document states. -/
def ofNode? (root : Node) : Option Layer :=
  match root with
  | .mapping _ pairs => setPairs? root [] empty pairs
  | .scalar _ _ .plain [] => some empty
  | _ => none

/-- The layer that a text states. -/
def parse? (text : Text) : Option Layer := (Yaml.parse? text).bind ofNode?

/-- A lone exclamation mark stays with the scalar as its tag, so the null after it is a value. -/
example : parse? (Text.lit "launcher: ! ~\ntemp_hint: ~") =
    some { empty with launcher := some ['~'] } := by decide +kernel

end Layer

end RunLine
