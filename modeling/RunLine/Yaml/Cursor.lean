import RunLine.Text
/-!
# A position in a YAML text

The text that is left, and where in the whole it starts: how many characters came before it, in which
line, and in which column of that line.
-/

namespace RunLine.Yaml

/-- The mark that may stand at the front of a text. -/
def byteOrderMark : Char := '\ufeff'

/-- The characters that a text may hold. -/
def isReadable (letter : Char) : Bool :=
  let code := letter.toNat
  code == 0x09 || code == 0x0A || code == 0x0D || (0x20 ≤ code && code ≤ 0x7E) || code == 0x85 ||
    (0xA0 ≤ code && code ≤ 0xD7FF) || (0xE000 ≤ code && code ≤ 0xFFFD) || 0x10000 ≤ code

/-- The characters that part words within a line. -/
def isBlank (letter : Char) : Bool := letter == ' ' || letter == '\t'

/-- The characters that end a line. -/
def isBreak (letter : Char) : Bool :=
  letter == '\r' || letter == '\n' || letter == '\u0085' || letter == '\u2028' || letter == '\u2029'

/-- The characters of names. -/
def isNameLetter (letter : Char) : Bool :=
  letter.isAlphanum || letter == '_' || letter == '-'

/-- Whether a text is at its end, at the end of a line, or at a blank. -/
def atGap : Text → Bool
  | [] => true
  | letter :: _ => isBlank letter || isBreak letter

/-- A position with the text that is left. -/
structure Cursor where
  rest : Text
  index : Nat
  line : Nat
  column : Nat
  deriving DecidableEq, Repr

namespace Cursor

def start (text : Text) : Cursor := ⟨text, 0, 0, 0⟩

/-- The character at a position. -/
def peek? (cursor : Cursor) : Option Char := cursor.rest.head?

/-- Whether a certain character comes next. -/
def isAt (cursor : Cursor) (letter : Char) : Bool := cursor.peek? == some letter

/-- Whether a blank, a line end or the end of the text comes next. -/
def isAtGap (cursor : Cursor) : Bool := atGap cursor.rest

/-- So many characters further in the same line. -/
def forward (cursor : Cursor) (count : Nat) : Cursor :=
  ⟨cursor.rest.drop count, cursor.index + count, cursor.line, cursor.column + count⟩

/-- The characters of a kind that come next, and the position after them. -/
def run (cursor : Cursor) (kind : Char → Bool) : Text × Cursor :=
  let letters := cursor.rest.takeWhile kind
  (letters, cursor.forward letters.length)

/-- The position after the characters of a kind. -/
def skip (cursor : Cursor) (kind : Char → Bool) : Cursor := (cursor.run kind).2

/-- The first position of the next line, so many characters further. -/
def nextLine (cursor : Cursor) (count : Nat) : Cursor :=
  ⟨cursor.rest.drop count, cursor.index + count, cursor.line + 1, 0⟩

/-- A line end that comes next, as it counts in a value, and the position after it. -/
def lineBreak? (cursor : Cursor) : Option (Char × Cursor) :=
  match cursor.rest with
  | '\r' :: '\n' :: _ => some ('\n', cursor.nextLine 2)
  | letter :: _ =>
      if letter = '\u2028' ∨ letter = '\u2029' then some (letter, cursor.nextLine 1)
      else if isBreak letter then some ('\n', cursor.nextLine 1)
      else none
  | [] => none

/-- Whether three equal signs stand at the start of a line, with a gap after them. -/
def isAtSign (cursor : Cursor) (sign : Char) : Bool :=
  cursor.column == 0 &&
    match cursor.rest with
    | a :: b :: c :: rest => a == sign && b == sign && c == sign && atGap rest
    | _ => false

/-- Whether a sign that starts or ends a document comes next. -/
def isAtDocumentSign (cursor : Cursor) : Bool := cursor.isAtSign '-' || cursor.isAtSign '.'

end Cursor

/-- A reader takes a value off a position, or finds the text malformed. -/
abbrev Scan (α : Type) := Cursor → Option (α × Cursor)

end RunLine.Yaml
