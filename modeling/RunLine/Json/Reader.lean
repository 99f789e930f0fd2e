import RunLine.Json.Number
/-!
# Reading JSON

The strict grammar: four blank characters, no comments, no commas before a closing bracket, nothing
after the value, control characters and surrogates only in escapes and surrogates only in pairs.
Collections nest at most 127 deep.
-/

namespace RunLine.Json

/-- A reader takes a value off the front of a text. -/
abbrev Reader (α : Type) := Text → Option (α × Text)

/-- The blanks between the parts of a value. -/
def isBlank (letter : Char) : Bool :=
  letter == ' ' || letter == '\t' || letter == '\n' || letter == '\r'

/-- The text from its first character that is no blank. -/
def skipBlanks (text : Text) : Text := text.dropWhile isBlank

/-- The character of an escape that is one letter long. -/
def shortEscape? (letter : Char) : Option Char :=
  match letter with
  | '"' => some '"'
  | '\\' => some '\\'
  | '/' => some '/'
  | 'b' => some '\x08'
  | 'f' => some '\x0c'
  | 'n' => some '\n'
  | 'r' => some '\r'
  | 't' => some '\t'
  | _ => none

/-- The number of four hexadecimal digits. -/
def unit? (a b c d : Char) : Option Nat := Text.number? 16 [a, b, c, d]

/-- The first half of a surrogate pair. -/
def isHighSurrogate (unit : Nat) : Bool := 0xD800 ≤ unit && unit < 0xDC00

/-- The second half of a surrogate pair. -/
def isLowSurrogate (unit : Nat) : Bool := 0xDC00 ≤ unit && unit < 0xE000

/-- The rest of a string whose opening quote has been read, up to its closing quote. -/
def readString : Reader Text
  | [] => none
  | '"' :: rest => some ([], rest)
  | '\\' :: 'u' :: a :: b :: c :: d :: rest => do
      let unit ← unit? a b c d
      if isHighSurrogate unit then
        match rest with
        | '\\' :: 'u' :: e :: f :: g :: h :: rest => do
            let low ← unit? e f g h
            if isLowSurrogate low then
              let (text, rest) ← readString rest
              some (Char.ofNat (0x10000 + (unit - 0xD800) * 0x400 + (low - 0xDC00)) :: text, rest)
            else none
        | _ => none
      else if isLowSurrogate unit then none
      else
        let (text, rest) ← readString rest
        some (Char.ofNat unit :: text, rest)
  | '\\' :: letter :: rest => do
      let escaped ← shortEscape? letter
      let (text, rest) ← readString rest
      some (escaped :: text, rest)
  | letter :: rest =>
      if letter = '\\' ∨ letter.toNat < 0x20 then none
      else do
        let (text, rest) ← readString rest
        some (letter :: text, rest)

/-- Items with commas between them up to a closing bracket.  Every item takes at least one
character, so the length of the text bounds their number. -/
def readItems {α : Type} (item : Reader α) (closing : Char) : Nat → Reader (List α)
  | 0, _ => none
  | bound + 1, text => do
      let (first, rest) ← item (skipBlanks text)
      match skipBlanks rest with
      | [] => none
      | letter :: rest =>
          if letter = closing then some ([first], rest)
          else if letter = ',' then
            let (others, rest) ← readItems item closing bound rest
            some (first :: others, rest)
          else none

/-- A collection whose opening bracket has been read. -/
def readCollection {α : Type} (item : Reader α) (closing : Char) : Reader (List α) := fun text =>
  match skipBlanks text with
  | [] => none
  | letter :: rest =>
      if letter = closing then some ([], rest)
      else readItems item closing (letter :: rest).length (letter :: rest)

/-- A member of an object: a name, a colon and a value. -/
def readMember {α : Type} (value : Reader α) : Reader (Text × α)
  | '"' :: rest => do
      let (name, rest) ← readString rest
      match skipBlanks rest with
      | ':' :: rest => do
          let (content, rest) ← value (skipBlanks rest)
          some ((name, content), rest)
      | _ => none
  | _ => none

/-- A value in which collections may nest so deep; the text starts with its first character. -/
def readValue : Nat → Reader Json
  | _, 'n' :: 'u' :: 'l' :: 'l' :: rest => some (.null, rest)
  | _, 't' :: 'r' :: 'u' :: 'e' :: rest => some (.boolean true, rest)
  | _, 'f' :: 'a' :: 'l' :: 's' :: 'e' :: rest => some (.boolean false, rest)
  | _, '"' :: rest => (readString rest).map fun read => (.string read.1, read.2)
  | depth + 1, '[' :: rest =>
      (readCollection (readValue depth) ']' rest).map fun read => (.array read.1, read.2)
  | depth + 1, '{' :: rest =>
      (readCollection (readMember (readValue depth)) '}' rest).map fun read => (.object read.1, read.2)
  | _, text => readNumber text

/-- How deep collections may nest. -/
def depthLimit : Nat := 127

/-- The value that a whole text states. -/
def read? (text : Text) : Option Json := do
  let (value, rest) ← readValue depthLimit (skipBlanks text)
  if (skipBlanks rest).isEmpty then some value else none

end RunLine.Json
