import RunLine.Yaml.Cursor
/-!
# Scalars

Scalars come plain, in single or double quotes, and as blocks of lines.  In all but literal blocks
lines are folded: a line end between two lines is a blank, and of several the first is dropped.
-/

namespace RunLine.Yaml

/-! ## Gaps between words -/

/-- Blanks and line ends between two words of a scalar. -/
structure Gap where
  blanks : Text
  /-- Whether a line ended; then the blanks do not count. -/
  broken : Bool
  first : Text
  others : Text
  deriving DecidableEq, Repr

namespace Gap

/-- The gap without blanks. -/
def none : Gap := ⟨[], false, [], []⟩

/-- The gap that starts with a line end that does not count. -/
def escaped : Gap := ⟨[], true, [], []⟩

/-- What a gap counts as in the value. -/
def folded (gap : Gap) : Text :=
  if gap.broken then
    if gap.first = ['\n'] then if gap.others.isEmpty then [' '] else gap.others
    else gap.first ++ gap.others
  else gap.blanks

/-- A gap with one more line end. -/
def addBreak (gap : Gap) (letter : Char) : Gap :=
  if gap.broken then { gap with others := gap.others ++ [letter] } else ⟨[], true, [letter], []⟩

/-- A gap up to the next word.  After a line end, a tab left of a column is refused. -/
def read (column : Nat) : Nat → Gap → Scan Gap
  | 0, gap, cursor => some (gap, cursor)
  | bound + 1, gap, cursor =>
      match cursor.lineBreak? with
      | some (letter, next) => read column bound (gap.addBreak letter) next
      | Option.none =>
          match cursor.peek? with
          | Option.none => some (gap, cursor)
          | some letter =>
              if !isBlank letter then some (gap, cursor)
              else if gap.broken && cursor.column < column && letter == '\t' then Option.none
              else if gap.broken then read column bound gap (cursor.forward 1)
              else read column bound { gap with blanks := gap.blanks ++ [letter] } (cursor.forward 1)

end Gap

/-! ## Quoted scalars -/

def escape? (letter : Char) : Option Char :=
  match letter with
  | '0' => some '\x00'
  | 'a' => some '\x07'
  | 'b' => some '\x08'
  | 't' | '\t' => some '\t'
  | 'n' => some '\n'
  | 'v' => some '\x0b'
  | 'f' => some '\x0c'
  | 'r' => some '\r'
  | 'e' => some '\x1b'
  | ' ' => some ' '
  | '"' => some '"'
  | '/' => some '/'
  | '\\' => some '\\'
  | 'N' => some '\u0085'
  | '_' => some '\u00a0'
  | 'L' => some '\u2028'
  | 'P' => some '\u2029'
  | _ => none

/-- How many digits follow the letter of a numeric escape. -/
def escapeWidth? (letter : Char) : Option Nat :=
  match letter with
  | 'x' => some 2
  | 'u' => some 4
  | 'U' => some 8
  | _ => none

/-- The character of an escape after its backslash. -/
def readEscape : Scan Char := fun cursor => do
  let letter ← cursor.peek?
  match escapeWidth? letter with
  | none =>
      let escaped ← escape? letter
      some (escaped, cursor.forward 1)
  | some width =>
      let digits := (cursor.rest.drop 1).take width
      if digits.length < width then none
      let code ← Text.number? 16 digits
      if code.isValidChar then some (Char.ofNat code, cursor.forward (1 + width)) else none

/-- What ended a word of a quoted scalar. -/
inductive WordEnd where
  | gap
  | closing
  /-- A backslash at the end of the line. -/
  | escapedBreak
  deriving DecidableEq, Repr

/-- A word of a quoted scalar, in single quotes or double ones. -/
def readQuotedWord (single : Bool) : Nat → Scan (Text × WordEnd)
  | 0, cursor => some (([], .gap), cursor)
  | bound + 1, cursor =>
      let continued (letter : Char) (next : Cursor) : Option ((Text × WordEnd) × Cursor) :=
        (readQuotedWord single bound next).map fun read => ((letter :: read.1.1, read.1.2), read.2)
      match cursor.rest with
      | [] => some (([], .gap), cursor)
      | letter :: rest =>
          if isBlank letter || isBreak letter then some (([], .gap), cursor)
          else if single then
            if letter = '\'' then
              if rest.head? = some '\'' then continued '\'' (cursor.forward 2)
              else some (([], .closing), cursor)
            else continued letter (cursor.forward 1)
          else if letter = '"' then some (([], .closing), cursor)
          else if letter = '\\' then
            match (cursor.forward 1).lineBreak? with
            | some (_, next) => some (([], .escapedBreak), next)
            | none => do
                let (escaped, next) ← readEscape (cursor.forward 1)
                continued escaped next
          else continued letter (cursor.forward 1)

/-- A quoted scalar after its opening quote, with the words read so far. -/
def readQuotedWords (single : Bool) : Nat → Text → Scan Text
  | 0, _, _ => none
  | bound + 1, sofar, cursor =>
      if cursor.isAtDocumentSign || cursor.rest.isEmpty then none
      else do
        let ((word, wordEnd), next) ← readQuotedWord single cursor.rest.length cursor
        if next.isAt (if single then '\'' else '"') then some (sofar ++ word, next.forward 1)
        else
          let opened := if wordEnd = .escapedBreak then Gap.escaped else Gap.none
          let (gap, next) ← Gap.read 0 next.rest.length opened next
          readQuotedWords single bound (sofar ++ word ++ gap.folded) next

/-- A quoted scalar that comes next. -/
def readQuoted (single : Bool) : Scan Text := fun cursor =>
  readQuotedWords single cursor.rest.length [] (cursor.forward 1)

/-! ## Plain scalars -/

/-- The brackets and the comma of flow collections. -/
def isFlowSign (letter : Char) : Bool :=
  letter == ',' || letter == '[' || letter == ']' || letter == '{' || letter == '}'

/-- A word of a plain scalar.  In a flow collection a colon may not stand before a sign of the
collection. -/
def readPlainWord (flow : Bool) : Nat → Scan Text
  | 0, cursor => some ([], cursor)
  | bound + 1, cursor =>
      match cursor.rest with
      | [] => some ([], cursor)
      | letter :: rest =>
          if isBlank letter || isBreak letter then some ([], cursor)
          else if flow && letter == ':' && rest.head?.any fun next => isFlowSign next || next == '?' then
            none
          else if (letter == ':' && atGap rest) || (flow && isFlowSign letter) then some ([], cursor)
          else
            (readPlainWord flow bound (cursor.forward 1)).map fun read => (letter :: read.1, read.2)

/-- A plain scalar with the words read so far and the gap after them.  It has to stay right of the
enclosing block collection.  The answer tells whether lines ended after its last word. -/
def readPlainWords (flow : Bool) (column : Nat) : Nat → Text → Gap → Scan (Text × Bool)
  | 0, sofar, gap, cursor => some ((sofar, gap.broken), cursor)
  | bound + 1, sofar, gap, cursor =>
      if cursor.isAtDocumentSign || cursor.isAt '#' then some ((sofar, gap.broken), cursor)
      else do
        let (word, next) ← readPlainWord flow cursor.rest.length cursor
        if word.isEmpty then some ((sofar, gap.broken), next)
        else
          let sofar := sofar ++ gap.folded ++ word
          let (gap, after) ← Gap.read column next.rest.length Gap.none next
          if gap = Gap.none || (!flow && after.column < column) then
            some ((sofar, gap.broken), after)
          else readPlainWords flow column bound sofar gap after

/-- A plain scalar that comes next. -/
def readPlain (flow : Bool) (column : Nat) : Scan (Text × Bool) := fun cursor =>
  readPlainWords flow column cursor.rest.length [] Gap.none cursor

/-! ## Block scalars -/

/-- What becomes of the line ends at the end of a block. -/
inductive Chomping where
  | strip
  | clip
  | keep
  deriving DecidableEq, Repr

/-- What the signs after a block indicator say. -/
structure BlockHeader where
  chomping : Chomping
  indent : Option Nat
  deriving DecidableEq, Repr

/-- The chomping that a sign asks for. -/
def chomping? (letter : Char) : Option Chomping :=
  match letter with
  | '+' => some .keep
  | '-' => some .strip
  | _ => none

/-- An optional chomping sign. -/
def readChomping (cursor : Cursor) : Chomping × Cursor :=
  match cursor.peek?.bind chomping? with
  | some chomping => (chomping, cursor.forward 1)
  | none => (.clip, cursor)

/-- An optional digit that sets the indentation; zero is refused. -/
def readIndent : Scan (Option Nat) := fun cursor =>
  match cursor.peek? with
  | none => some (none, cursor)
  | some letter =>
      if letter = '0' then none
      else if Text.isDigit letter then
        some (some (letter.toNat - '0'.toNat), cursor.forward 1)
      else some (none, cursor)

/-- The signs after a block indicator, in either order, with the rest of their line. -/
def readBlockHeader : Scan BlockHeader := fun cursor => do
  let (early, next) := readChomping cursor
  let (indent, next) ← readIndent next
  let (chomping, next) := if early = .clip then readChomping next else (early, next)
  let next := next.skip isBlank
  let next := if next.isAt '#' then next.skip fun letter => !isBreak letter else next
  if next.rest.isEmpty then some (⟨chomping, indent⟩, next)
  else
    let (_, next) ← next.lineBreak?
    some (⟨chomping, indent⟩, next)

/-- The spaces at the front of a line, up to a column if there is one. -/
def skipIndent (column : Option Nat) (cursor : Cursor) : Cursor :=
  let spaces := (cursor.rest.takeWhile (· == ' ')).length
  match column with
  | none => cursor.forward spaces
  | some column => cursor.forward (min spaces (column - cursor.column))

/-- Whether a position is left of a column; every position is left of none. -/
def isLeftOf (cursor : Cursor) (column : Option Nat) : Bool :=
  column.all fun column => decide (cursor.column < column)

/-- Blank lines of a block with their line ends, and the widest indentation among them and the line
that follows. -/
def readBlankLines (column : Option Nat) : Nat → Nat → Text → Scan (Nat × Text)
  | 0, widest, breaks, cursor => some ((widest, breaks), cursor)
  | bound + 1, widest, breaks, cursor =>
      let next := skipIndent column cursor
      let widest := max widest next.column
      if isLeftOf next column && next.isAt '\t' then none
      else
        match next.lineBreak? with
        | some (letter, after) => readBlankLines column bound widest (breaks ++ [letter]) after
        | none => some ((widest, breaks), next)

/-- The lines of a block at its column.  Before each line stand the end of the line before it and
the ends of blank lines; a single line end between two lines that start with no blank is folded. -/
def readBlockLines (literal : Bool) (column : Nat) :
    Nat → Text → Text → Text → Bool → Scan (Text × Text × Text)
  | 0, sofar, first, others, _, cursor => some ((sofar, first, others), cursor)
  | bound + 1, sofar, first, others, afterBlank, cursor =>
      match cursor.peek? with
      | none => some ((sofar, first, others), cursor)
      | some letter =>
          if cursor.column ≠ column then some ((sofar, first, others), cursor)
          else do
            let atBlank := isBlank letter
            let lead :=
              if !literal && first.head? == some '\n' && !afterBlank && !atBlank then
                if others.isEmpty then [' '] else []
              else first
            let (line, next) := cursor.run fun letter => !isBreak letter
            let (first, next) :=
              match next.lineBreak? with
              | some (letter, after) => ([letter], after)
              | none => ([], next)
            let ((_, blankLines), next) ← readBlankLines (some column) (next.rest.length + 1) 0 [] next
            readBlockLines literal column bound (sofar ++ lead ++ others ++ line) first blankLines
              atBlank next

/-- A block scalar after its indicator, within block collections the innermost of which stands at a
column. -/
def readBlock (literal : Bool) (enclosing : Option Nat) : Scan Text := fun cursor => do
  let (header, next) ← readBlockHeader cursor
  let given := header.indent.map (enclosing.getD 0 + ·)
  let ((widest, breaks), next) ← readBlankLines given (next.rest.length + 1) 0 [] next
  let column := given.getD (max widest (max (enclosing.elim 0 (· + 1)) 1))
  let ((text, first, others), next) ←
    readBlockLines literal column (next.rest.length + 1) [] [] breaks false next
  match header.chomping with
  | .strip => some (text, next)
  | .clip => some (text ++ first, next)
  | .keep => some (text ++ first ++ others, next)

end RunLine.Yaml
