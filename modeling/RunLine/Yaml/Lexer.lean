import RunLine.Yaml.Property
import RunLine.Yaml.Scalar
/-!
# Cutting a YAML text into tokens

Tokens are cut one by one.  A mapping key is known as such only when its colon is met, so the place
where it started is kept meanwhile, and the key sign goes in there afterwards.  Block collections
open when something starts right of the innermost open one and close when something starts left of
it.
-/

namespace RunLine.Yaml

/-- Where something started that a colon would make a key. -/
structure KeyCandidate where
  /-- How many tokens came before it. -/
  position : Nat
  /-- Whether nothing but a key may stand there. -/
  required : Bool
  index : Nat
  line : Nat
  column : Nat
  deriving DecidableEq, Repr

/-- The state between two tokens. -/
structure Lexer where
  cursor : Cursor
  tokens : Array Token
  /-- The columns of the open block collections, innermost first. -/
  columns : List Nat
  /-- The candidate of the innermost flow collection, or of the block if there is none. -/
  candidate : Option KeyCandidate
  /-- The candidates of the collections around it, innermost first. -/
  outer : List (Option KeyCandidate)
  /-- Whether a key may start here. -/
  keyAllowed : Bool
  deriving Repr

namespace Lexer

/-- The state before the first token. -/
def start (text : Text) : Lexer := ⟨.start text, #[], [], none, [], true⟩

/-- Whether the position is inside a flow collection. -/
def inFlow (lexer : Lexer) : Bool := !lexer.outer.isEmpty

/-- The state with one more token. -/
def push (lexer : Lexer) (token : Token) : Lexer := { lexer with tokens := lexer.tokens.push token }

/-- The state after a sign of some characters that is a token. -/
def pushSign (lexer : Lexer) (width : Nat) (token : Token) : Lexer :=
  { lexer with tokens := lexer.tokens.push token, cursor := lexer.cursor.forward width }

/-! ## Between tokens -/

/-- The position after blanks, comments and line ends, and whether a key may start there.  In a
block a tab counts as a blank only where no key may start, and every line end allows one. -/
def skipFiller (flow : Bool) : Nat → Bool → Cursor → Bool × Cursor
  | 0, allowed, cursor => (allowed, cursor)
  | bound + 1, allowed, cursor =>
      let cursor :=
        if cursor.column = 0 ∧ cursor.isAt byteOrderMark then cursor.forward 1 else cursor
      let cursor := cursor.skip fun letter => letter == ' ' || (letter == '\t' && (flow || !allowed))
      let cursor := if cursor.isAt '#' then cursor.skip fun letter => !isBreak letter else cursor
      match cursor.lineBreak? with
      | some (_, next) => skipFiller flow bound (allowed || !flow) next
      | none => (allowed, cursor)

def toNextToken (lexer : Lexer) : Lexer :=
  let (keyAllowed, cursor) :=
    skipFiller lexer.inFlow (lexer.cursor.rest.length + 1) lexer.keyAllowed lexer.cursor
  { lexer with keyAllowed, cursor }

/-- Whether a candidate lies too far back to become a key: in an earlier line, or more than 1024
characters ago. -/
def isStale (cursor : Cursor) (candidate : KeyCandidate) : Bool :=
  candidate.line < cursor.line || candidate.index + 1024 < cursor.index

/-- A candidate as far as it is not stale; a stale one must not be required. -/
def refresh? (cursor : Cursor) : Option KeyCandidate → Option (Option KeyCandidate)
  | none => some none
  | some candidate =>
      if !isStale cursor candidate then some (some candidate)
      else if candidate.required then none
      else some none

/-- The state without stale candidates. -/
def dropStale? (lexer : Lexer) : Option Lexer := do
  let candidate ← refresh? lexer.cursor lexer.candidate
  let outer ← lexer.outer.mapM (refresh? lexer.cursor)
  some { lexer with candidate, outer }

/-- The state after the end of block collections right of a column, or of all. -/
def closeBlocks (lexer : Lexer) (column : Option Nat) : Lexer :=
  if lexer.inFlow then lexer
  else
    let isInner (start : Nat) : Bool := column.all fun column => decide (column < start)
    let closed := lexer.columns.takeWhile isInner
    { lexer with
      columns := lexer.columns.dropWhile isInner
      tokens := lexer.tokens ++ Array.replicate closed.length Token.blockEnd }

/-! ## Keys -/

/-- The state without its candidate, which must not be required. -/
def dropCandidate? (lexer : Lexer) : Option Lexer :=
  if lexer.candidate.any KeyCandidate.required then none else some { lexer with candidate := none }

/-- The state in which the next token may be a key. -/
def saveCandidate? (lexer : Lexer) : Option Lexer :=
  if !lexer.keyAllowed then some lexer
  else do
    let lexer ← lexer.dropCandidate?
    let cursor := lexer.cursor
    let required := !lexer.inFlow && lexer.columns.head? == some cursor.column
    some { lexer with
      candidate := some ⟨lexer.tokens.size, required, cursor.index, cursor.line, cursor.column⟩ }

/-- The state with a block collection open that starts at a column, unless one is open there.  Its
token goes in after so many tokens. -/
def openBlock (lexer : Lexer) (column position : Nat) (token : Token) : Lexer :=
  if lexer.inFlow || lexer.columns.head?.any (column ≤ ·) then lexer
  else
    { lexer with
      columns := column :: lexer.columns
      tokens := lexer.tokens.insertIdxIfInBounds position token }

/-- The state after a sign that opens a block collection where none is open. -/
def openAtSign? (lexer : Lexer) (token : Token) : Option Lexer :=
  if lexer.inFlow then some lexer
  else if !lexer.keyAllowed then none
  else some (lexer.openBlock lexer.cursor.column lexer.tokens.size token)

/-! ## The kinds of tokens -/

/-- A bracket that opens a flow collection. -/
def openFlow? (lexer : Lexer) (token : Token) : Option Lexer := do
  let lexer ← lexer.saveCandidate?
  some { lexer.pushSign 1 token with
    outer := lexer.candidate :: lexer.outer, candidate := none, keyAllowed := true }

/-- A bracket that closes a flow collection. -/
def closeFlow? (lexer : Lexer) (token : Token) : Option Lexer := do
  let lexer ← lexer.dropCandidate?
  some { lexer.pushSign 1 token with
    outer := lexer.outer.tail
    candidate := lexer.outer.head?.getD none
    keyAllowed := false }

def flowEntry? (lexer : Lexer) : Option Lexer := do
  let lexer ← lexer.dropCandidate?
  some { lexer.pushSign 1 .flowEntry with keyAllowed := true }

def blockEntry? (lexer : Lexer) : Option Lexer := do
  let lexer ← lexer.openAtSign? .blockSequenceStart
  let lexer ← lexer.dropCandidate?
  some { lexer.pushSign 1 .blockEntry with keyAllowed := true }

/-- A question mark. -/
def key? (lexer : Lexer) : Option Lexer := do
  let lexer ← lexer.openAtSign? .blockMappingStart
  let lexer ← lexer.dropCandidate?
  some { lexer.pushSign 1 .key with keyAllowed := !lexer.inFlow }

/-- A colon, which makes the candidate a key. -/
def value? (lexer : Lexer) : Option Lexer :=
  match lexer.candidate with
  | some candidate =>
      let keyed := { lexer with
        tokens := lexer.tokens.insertIdxIfInBounds candidate.position .key
        candidate := none }
      let opened := keyed.openBlock candidate.column candidate.position .blockMappingStart
      some { opened.pushSign 1 .value with keyAllowed := false }
  | none => do
      let lexer ← lexer.openAtSign? .blockMappingStart
      some { lexer.pushSign 1 .value with keyAllowed := !lexer.inFlow }

/-- A token that may be a key and after which none may start in the same line. -/
def keyLike? (lexer : Lexer) (scan : Scan Token) : Option Lexer := do
  let lexer ← lexer.saveCandidate?
  let (token, cursor) ← scan lexer.cursor
  some { lexer.push token with cursor, keyAllowed := false }

/-- A plain scalar.  If lines ended after it, a key may follow. -/
def plain? (lexer : Lexer) : Option Lexer := do
  let lexer ← lexer.saveCandidate?
  let ((text, broken), cursor) ←
    readPlain lexer.inFlow (lexer.columns.head?.elim 0 (· + 1)) lexer.cursor
  some { lexer.push (.scalar .plain text) with cursor, keyAllowed := broken }

/-- A block scalar after its indicator. -/
def block? (lexer : Lexer) (literal : Bool) : Option Lexer := do
  let lexer ← lexer.dropCandidate?
  let (text, cursor) ← readBlock literal lexer.columns.head? (lexer.cursor.forward 1)
  let form := if literal then ScalarForm.literal else .folded
  some { lexer.push (.scalar form text) with cursor, keyAllowed := true }

/-- A token that stands outside of documents. -/
def betweenDocuments? (lexer : Lexer) (scan : Scan Token) : Option Lexer := do
  let lexer ← (lexer.closeBlocks none).dropCandidate?
  let (token, cursor) ← scan lexer.cursor
  some { lexer.push token with cursor, keyAllowed := false }

/-- A token of some characters. -/
def sign (width : Nat) (token : Token) : Scan Token := fun cursor =>
  some (token, cursor.forward width)

/-- A text after a sign. -/
def named (make : Text → Token) : Scan Token := fun cursor =>
  (readName (cursor.forward 1)).map fun read => (make read.1, read.2)

def quoted (single : Bool) : Scan Token := fun cursor =>
  (readQuoted single cursor).map fun read => (.scalar .quoted read.1, read.2)

/-- Whether a plain scalar may start with a letter that another one follows. -/
def startsPlain (flow : Bool) (letter : Char) (rest : Text) : Bool :=
  if letter == '-' then !(rest.head?.any isBlank)
  else if letter == '?' || letter == ':' then !flow && !atGap rest
  else !isBlank letter && !(Text.lit ",[]\x7b\x7d#&*!|>'\"%@\x60").contains letter

/-- The state after the token that starts with a letter. -/
def cut? (lexer : Lexer) (letter : Char) (rest : Text) : Option Lexer :=
  let cursor := lexer.cursor
  let flow := lexer.inFlow
  if cursor.column = 0 ∧ letter = '%' then lexer.betweenDocuments? readDirective
  else if cursor.isAtSign '-' then lexer.betweenDocuments? (sign 3 .documentStart)
  else if cursor.isAtSign '.' then lexer.betweenDocuments? (sign 3 .documentEnd)
  else if letter = '[' then lexer.openFlow? .flowSequenceStart
  else if letter = '\x7b' then lexer.openFlow? .flowMappingStart
  else if letter = ']' then lexer.closeFlow? .flowSequenceEnd
  else if letter = '\x7d' then lexer.closeFlow? .flowMappingEnd
  else if letter = ',' then lexer.flowEntry?
  else if letter = '-' ∧ atGap rest then lexer.blockEntry?
  else if letter = '?' ∧ (flow ∨ atGap rest) then lexer.key?
  else if letter = ':' ∧ (flow ∨ atGap rest) then lexer.value?
  else if letter = '*' then lexer.keyLike? (named .alias)
  else if letter = '&' then lexer.keyLike? (named .anchor)
  else if letter = '!' then lexer.keyLike? (readTag flow)
  else if letter = '|' ∧ !flow then lexer.block? true
  else if letter = '>' ∧ !flow then lexer.block? false
  else if letter = '\'' then lexer.keyLike? (quoted true)
  else if letter = '"' then lexer.keyLike? (quoted false)
  else if startsPlain flow letter rest then lexer.plain?
  else none

/-- The state after the last token. -/
def finish? (lexer : Lexer) : Option Lexer := (lexer.closeBlocks none).dropCandidate?

/-- The tokens from a state to the end.  Every token takes at least one character, so the length of
the text bounds their number. -/
def tokens? : Nat → Lexer → Option (List Token)
  | 0, _ => none
  | bound + 1, lexer => do
      let lexer ← lexer.toNextToken.dropStale?
      let lexer := lexer.closeBlocks (some lexer.cursor.column)
      match lexer.cursor.rest with
      | [] => (lexer.finish?).map fun lexer => lexer.tokens.toList
      | letter :: rest => do
          let lexer ← lexer.cut? letter rest
          tokens? bound lexer

end Lexer

/-- The tokens of a text, unless it is malformed. -/
def tokensOf? (text : Text) : Option (List Token) :=
  if text.all isReadable then Lexer.tokens? (text.length + 1) (.start text) else none

end RunLine.Yaml
