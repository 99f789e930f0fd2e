import RunLine.Json
/-!
# Writing JSON

Two layouts of one grammar: compact, without blanks, and pretty, with every item on a line of its own
and two blanks of indent a level.  In strings the quote, the backslash and the control characters
below the blank are escaped; all else stands for itself.
-/

namespace RunLine.Json

/-- How the items of a collection are set apart. -/
inductive Layout where
  | compact
  | pretty
  deriving DecidableEq, Repr

/-- The written form of one character of a string. -/
def escaped (letter : Char) : Text :=
  if letter = '"' then ['\\', '"']
  else if letter = '\\' then ['\\', '\\']
  else if letter = '\x08' then ['\\', 'b']
  else if letter = '\x0c' then ['\\', 'f']
  else if letter = '\n' then ['\\', 'n']
  else if letter = '\r' then ['\\', 'r']
  else if letter = '\t' then ['\\', 't']
  else if letter.toNat < 0x20 then
    ['\\', 'u', '0', '0', Nat.digitChar (letter.toNat / 16), Nat.digitChar (letter.toNat % 16)]
  else [letter]

/-- The written form of a string, quotes included. -/
def quoted (text : Text) : Text := '"' :: (text.flatMap escaped ++ ['"'])

namespace Layout

/-- What stands before an item at a depth. -/
def lead : Layout → Nat → Text
  | compact, _ => []
  | pretty, depth => '\n' :: List.replicate (2 * depth) ' '

/-- What stands between a name and its value. -/
def colon : Layout → Text
  | compact => [':']
  | pretty => [':', ' ']

/-- Written items between their brackets, where the brackets stand at a depth. -/
def bracket (layout : Layout) (depth : Nat) (opening closing : Char) : List Text → Text
  | [] => [opening, closing]
  | items =>
      opening ::
        ([','].intercalate (items.map (layout.lead (depth + 1) ++ ·)) ++
          (layout.lead depth ++ [closing]))

end Layout

mutual

/-- The written form of a value at a depth. -/
def write (layout : Layout) (depth : Nat) : Json → Text
  | .null => ['n', 'u', 'l', 'l']
  | .boolean true => ['t', 'r', 'u', 'e']
  | .boolean false => ['f', 'a', 'l', 's', 'e']
  | .integer value => (if value < 0 then ['-'] else []) ++ Text.ofNat value.natAbs
  | .float negative significand exponent =>
      (if negative then ['-'] else []) ++ Text.ofNat significand ++ 'e' ::
        ((if exponent < 0 then ['-'] else []) ++ Text.ofNat exponent.natAbs)
  | .string text => quoted text
  | .array items => layout.bracket depth '[' ']' (writeItems layout (depth + 1) items)
  | .object members => layout.bracket depth '{' '}' (writeMembers layout (depth + 1) members)

/-- The written forms of the items of an array. -/
def writeItems (layout : Layout) (depth : Nat) : List Json → List Text
  | [] => []
  | item :: rest => write layout depth item :: writeItems layout depth rest

/-- The written forms of the members of an object. -/
def writeMembers (layout : Layout) (depth : Nat) : List (Text × Json) → List Text
  | [] => []
  | (name, value) :: rest =>
      (quoted name ++ layout.colon ++ write layout depth value) :: writeMembers layout depth rest

end

def compact (value : Json) : Text := write .compact 0 value

def pretty (value : Json) : Text := write .pretty 0 value

end RunLine.Json
