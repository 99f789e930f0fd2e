import RunLine.Yaml.Cursor
import RunLine.Yaml.Token
/-!
# Anchors, tags and directives

What stands before a node: a name to refer to it by, a tag, and ahead of a document the version of
the format and abbreviations for tags.
-/

namespace RunLine.Yaml

/-- The name of an anchor or alias after its sign. -/
def readName : Scan Text := fun cursor =>
  let (name, next) := cursor.run isNameLetter
  let ends :=
    match next.peek? with
    | none => true
    | some letter =>
        next.isAtGap || letter == '?' || letter == ':' || letter == ',' || letter == ']' ||
          letter == '}' || letter == '%' || letter == '@' || letter == '\x60'
  if !name.isEmpty && ends then some (name, next) else none

/-- The characters of tags; commas and brackets only where the tag is closed otherwise. -/
def isTagLetter (closed : Bool) (letter : Char) : Bool :=
  isNameLetter letter || (Text.lit ";/?:@&=+$.%!~*'()").contains letter ||
    (closed && (letter == ',' || letter == '[' || letter == ']'))

/-- One escaped byte of a tag: a percent sign and two digits. -/
def readTagByte : Scan Nat := fun cursor =>
  match cursor.rest with
  | '%' :: high :: low :: _ => do
      let byte ← Text.number? 16 [high, low]
      some (byte, cursor.forward 3)
  | _ => none

/-- How many bytes a character takes whose first byte is given. -/
def tagCharWidth? (lead : Nat) : Option Nat :=
  if lead < 0x80 then some 1
  else if 0xC0 ≤ lead ∧ lead < 0xE0 then some 2
  else if 0xE0 ≤ lead ∧ lead < 0xF0 then some 3
  else if 0xF0 ≤ lead ∧ lead < 0xF8 then some 4
  else none

/-- Escaped bytes that continue a character. -/
def readTagTail : Nat → Scan Text
  | 0, cursor => some ([], cursor)
  | count + 1, cursor => do
      let (byte, next) ← readTagByte cursor
      if 0x80 ≤ byte ∧ byte < 0xC0 then
        let (others, next) ← readTagTail count next
        some (Char.ofNat byte :: others, next)
      else none

/-- An escaped character of a tag; each of its bytes stands as the character of that number. -/
def readTagEscape : Scan Text := fun cursor => do
  let (lead, next) ← readTagByte cursor
  let width ← tagCharWidth? lead
  let (others, next) ← readTagTail (width - 1) next
  some (Char.ofNat lead :: others, next)

def readTagText (closed : Bool) : Nat → Scan Text
  | 0, cursor => some ([], cursor)
  | bound + 1, cursor =>
      match cursor.peek? with
      | none => some ([], cursor)
      | some letter =>
          if !isTagLetter closed letter then some ([], cursor)
          else do
            let (front, next) ←
              if letter = '%' then readTagEscape cursor else some ([letter], cursor.forward 1)
            let (others, next) ← readTagText closed bound next
            some (front ++ others, next)

/-- A tag text of at least one character. -/
def readTagPart (closed : Bool) : Scan Text := fun cursor => do
  let (part, next) ← readTagText closed cursor.rest.length cursor
  if part.isEmpty then none else some (part, next)

/-- An exclamation mark with a name, and with a second mark if there is one. -/
def readHandle : Scan Text := fun cursor =>
  if !cursor.isAt '!' then none
  else
    let (name, next) := (cursor.forward 1).run isNameLetter
    if next.isAt '!' then some ('!' :: (name ++ ['!']), next.forward 1)
    else some ('!' :: name, next)

/-- Whether a handle is closed by a second mark. -/
def isClosedHandle (handle : Text) : Bool := 2 ≤ handle.length && handle.getLast? == some '!'

/-- The handle and the suffix of a tag.  A tag in angle brackets has an empty handle, as the lone
exclamation mark has. -/
def readTag (flow : Bool) : Scan Token := fun cursor => do
  let (token, next) ←
    match cursor.rest with
    | '!' :: '<' :: _ => do
        let (suffix, next) ← readTagPart true (cursor.forward 2)
        if next.isAt '>' then some (Token.tag [] suffix, next.forward 1) else none
    | _ => do
        let (handle, next) ← readHandle cursor
        if isClosedHandle handle then
          let (suffix, next) ← readTagPart false next
          some (.tag handle suffix, next)
        else
          let (others, next) ← readTagText false next.rest.length next
          let suffix := handle.drop 1 ++ others
          some (if suffix.isEmpty then .tag [] ['!'] else .tag ['!'] suffix, next)
  if next.isAtGap || (flow && next.isAt ',') then some (token, next) else none

/-- A number of at most nine digits. -/
def readVersionNumber : Scan Nat := fun cursor => do
  let (digits, next) := cursor.run Text.isDigit
  let number ← Text.number? 10 digits
  if digits.length ≤ 9 then some (number, next) else none

/-- A version: two numbers with a point between them. -/
def readVersion : Scan Token := fun cursor => do
  let (major, next) ← readVersionNumber (cursor.skip isBlank)
  if !next.isAt '.' then none
  let (minor, next) ← readVersionNumber (next.forward 1)
  some (.versionDirective major minor, next)

/-- An abbreviation: a handle and what it stands for. -/
def readAbbreviation : Scan Token := fun cursor => do
  let (handle, next) ← readHandle (cursor.skip isBlank)
  if handle ≠ ['!'] && !isClosedHandle handle then none
  if !(next.peek?.any isBlank) then none
  let (expansion, next) ← readTagPart true (next.skip isBlank)
  if next.isAtGap then some (.tagDirective handle expansion, next) else none

def readDirective : Scan Token := fun cursor => do
  let (name, next) := (cursor.forward 1).run isNameLetter
  if name.isEmpty || !next.isAtGap then none
  let (token, next) ←
    if name = Text.lit "YAML" then readVersion next
    else if name = Text.lit "TAG" then readAbbreviation next
    else none
  let next := next.skip isBlank
  let next := if next.isAt '#' then next.skip fun letter => !isBreak letter else next
  if next.rest.isEmpty then some (token, next)
  else
    let (_, next) ← next.lineBreak?
    some (token, next)

end RunLine.Yaml
