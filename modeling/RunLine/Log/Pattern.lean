import RunLine.Text.Alphanumeric
/-!
# Patterns

The value that a field is to have is written as a number, a truth value or a regular expression.
Nothing is ever matched against such a value here; all that counts is whether it can be read.  Values
hold no closing brace, so counted repetitions and braced escapes never come to an end.
-/

namespace RunLine.Log.Pattern

/-! ## Escapes -/

/-- What an escape, or a character by itself, stands for. -/
inductive Atom where
  | letter (letter : Char)
  | set
  | assertion
  deriving DecidableEq, Repr

/-- How many digits follow the sign of an escape by code point. -/
def codeWidth? (sign : Char) : Option Nat :=
  match sign with
  | 'x' => some 2
  | 'u' => some 4
  | 'U' => some 8
  | _ => none

/-- The character of an escape of one letter. -/
def control? (sign : Char) : Option Char :=
  match sign with
  | 'a' => some '\x07'
  | 'f' => some '\x0c'
  | 't' => some '\t'
  | 'n' => some '\n'
  | 'r' => some '\r'
  | 'v' => some '\x0b'
  | _ => none

/-- An escape by code point, after its sign. -/
def readCode? (unicode : Bool) (width : Nat) (text : Text) : Option (Atom × Text) := do
  let digits := text.take width
  if digits.length < width then none
  else
    let code ← Text.number? 16 digits
    if !code.isValidChar || (!unicode && width == 2 && 0x7F < code) then none
    else some (.letter (Char.ofNat code), text.drop width)

/-- The general categories of one letter. -/
def categories : Text := Text.lit "CLMNPSZclmnpsz"

/-- An escape after its backslash.  Sets that reach beyond ASCII, and the boundaries of words, depend
on whether the pattern is about characters or about bytes. -/
def readEscape? (unicode : Bool) : Text → Option (Atom × Text)
  | [] => none
  | sign :: rest =>
      match codeWidth? sign with
      | some width => readCode? unicode width rest
      | none =>
          if sign = 'p' ∨ sign = 'P' then
            match rest with
            | category :: rest =>
                if unicode && categories.contains category then some (.set, rest) else none
            | [] => none
          else if (Text.lit "dsw").contains sign then some (.set, rest)
          else if (Text.lit "DSW").contains sign then if unicode then some (.set, rest) else none
          else if (Text.lit "Az").contains sign then some (.assertion, rest)
          else if (Text.lit "bB<>").contains sign then
            if unicode then none else some (.assertion, rest)
          else
            match control? sign with
            | some letter => some (.letter letter, rest)
            | none =>
                if sign.toNat < 0x80 && !sign.isAlphanum then some (.letter sign, rest) else none

/-! ## Sets -/

def asciiSets : List Text :=
  [Text.lit "alnum", Text.lit "alpha", Text.lit "ascii", Text.lit "blank", Text.lit "cntrl",
    Text.lit "digit", Text.lit "graph", Text.lit "lower", Text.lit "print", Text.lit "punct",
    Text.lit "space", Text.lit "upper", Text.lit "word", Text.lit "xdigit"]

/-- The rest after an ASCII set, of which the opening bracket was read. -/
def readAsciiSet? : Text → Option Text
  | ':' :: rest =>
      let rest := if rest.head? = some '^' then rest.tail else rest
      match rest.dropWhile (· ≠ ':') with
      | ':' :: ']' :: after => if asciiSets.contains (rest.takeWhile (· ≠ ':')) then some after else none
      | _ => none
  | _ => none

/-- The rest after the beginning of a set, of which the opening bracket was read.  Dashes there, or
else a closing bracket, stand for themselves. -/
def readSetStart? (unicode : Bool) (text : Text) : Option Text := do
  let text ←
    match text with
    | '^' :: rest => if unicode then some rest else none
    | _ => some text
  match text with
  | ']' :: rest => some rest
  | _ => some (text.dropWhile (· = '-'))

def readMember? (unicode : Bool) : Text → Option (Atom × Text)
  | [] => none
  | '\\' :: rest => do
      match ← readEscape? unicode rest with
      | (.assertion, _) => none
      | member => some member
  | letter :: rest => if unicode || letter.toNat < 0x80 then some (.letter letter, rest) else none

/-- The rest after a member or a range.  Only characters bound a range, and in order. -/
def readRange? (unicode : Bool) (text : Text) : Option Text := do
  let (first, rest) ← readMember? unicode text
  match rest with
  | '-' :: after =>
      if after.head? = some ']' ∨ after.head? = some '-' then some rest
      else
        match first, ← readMember? unicode after with
        | .letter first, (.letter last, rest) => if first ≤ last then some rest else none
        | _, _ => none
  | _ => some rest

/-- The rest after a set that lies in so many others, of which the beginning was read. -/
def readSet? (unicode : Bool) : Nat → Nat → Text → Option Text
  | 0, _, _ => none
  | bound + 1, depth, text =>
      match text with
      | [] => none
      | '[' :: rest =>
          match readAsciiSet? rest with
          | some rest => readSet? unicode bound depth rest
          | none => do readSet? unicode bound (depth + 1) (← readSetStart? unicode rest)
      | ']' :: rest =>
          match depth with
          | 0 => some rest
          | depth + 1 => readSet? unicode bound depth rest
      | '&' :: '&' :: rest | '-' :: '-' :: rest | '~' :: '~' :: rest =>
          readSet? unicode bound depth rest
      | _ => do readSet? unicode bound depth (← readRange? unicode text)

/-! ## Groups -/

/-- A pattern in the middle of being read. -/
structure Reading where
  /-- Whether the pattern is about characters rather than bytes. -/
  unicode : Bool
  /-- What `unicode` was where the open groups began. -/
  groups : List Bool
  /-- Whether there is something to repeat. -/
  repeatable : Bool
  /-- The names of groups so far. -/
  names : List Text
  deriving DecidableEq, Repr

namespace Reading

/-- A pattern about characters of which nothing was read. -/
def start : Reading := ⟨true, [], false, []⟩

/-- The reading after something that can be repeated. -/
def repeated (reading : Reading) : Reading := { reading with repeatable := true }

/-- The reading inside of a new group. -/
def opened (reading : Reading) (unicode : Bool) : Reading :=
  { reading with unicode, groups := reading.unicode :: reading.groups, repeatable := false }

end Reading

/-- Whether flags may be written so: each at most once, and one at most taken back from. -/
def areFlags (flags : Text) : Bool :=
  flags.all (Text.lit "imsUuRx-").contains && flags.eraseDups == flags && flags.getLast? != some '-'

/-- Whether a pattern is about characters where flags hold. -/
def unicodeUnder (before : Bool) (flags : Text) : Bool :=
  if (flags.takeWhile (· ≠ '-')).contains 'u' then true
  else if flags.contains 'u' then false
  else before

def isGroupName (name : Text) : Bool :=
  match name with
  | [] => false
  | first :: rest =>
      (first == '_' || Text.isAlphabetic first) &&
        rest.all fun letter => (Text.lit "_.[]").contains letter || Text.isAlphanumeric letter

/-- A named group after the sign that opens its name. -/
def readNamed? (reading : Reading) (text : Text) : Option (Reading × Text) :=
  let name := text.takeWhile (· ≠ '>')
  match text.dropWhile (· ≠ '>') with
  | _ :: rest =>
      if isGroupName name && !reading.names.contains name then
        some ({ reading.opened reading.unicode with names := name :: reading.names }, rest)
      else none
  | [] => none

/-- A group after its opening bracket.  Flags alone hold up to the end of the group around them. -/
def readGroup? (reading : Reading) : Text → Option (Reading × Text)
  | '?' :: 'P' :: '<' :: rest => readNamed? reading rest
  | '?' :: '<' :: rest => readNamed? reading rest
  | '?' :: rest =>
      let flags := rest.takeWhile fun letter => letter ≠ ':' && letter ≠ ')'
      let unicode := unicodeUnder reading.unicode flags
      if !areFlags flags then none
      else
        match rest.dropWhile fun letter => letter ≠ ':' && letter ≠ ')' with
        | ':' :: rest => some (reading.opened unicode, rest)
        | ')' :: rest =>
            if flags.isEmpty then none
            else some ({ reading with unicode, repeatable := false }, rest)
        | _ => none
  | rest => some (reading.opened reading.unicode, rest)

/-! ## Patterns as a whole -/

/-- One step through a pattern that starts with a character. -/
def step? (reading : Reading) (letter : Char) (rest : Text) : Option (Reading × Text) :=
  match letter with
  | '(' => readGroup? reading rest
  | ')' =>
      match reading.groups with
      | [] => none
      | unicode :: groups => some ({ reading.repeated with unicode, groups }, rest)
  | '|' => some ({ reading with repeatable := false }, rest)
  | '*' | '+' | '?' =>
      if reading.repeatable then some (reading, if rest.head? = some '?' then rest.tail else rest)
      else none
  | '{' => none
  | '[' => do
      let rest ← readSetStart? reading.unicode rest
      let rest ← readSet? reading.unicode (rest.length + 1) 0 rest
      some (reading.repeated, rest)
  | '.' => if reading.unicode then some (reading.repeated, rest) else none
  | '\\' => do
      let (_, rest) ← readEscape? reading.unicode rest
      some (reading.repeated, rest)
  | _ => some (reading.repeated, rest)

/-- Whether the rest of a pattern can be read.  Every step takes at least one character, so the length
of the text bounds their number. -/
def canContinue : Nat → Reading → Text → Bool
  | _, reading, [] => reading.groups.isEmpty
  | 0, _, _ :: _ => false
  | bound + 1, reading, letter :: rest =>
      match step? reading letter rest with
      | none => false
      | some (reading, rest) => canContinue bound reading rest

def isExpression (text : Text) : Bool := canContinue text.length .start text

/-- Whether a text without a sign is a decimal number, or the name of one. -/
def isNumber (text : Text) : Bool :=
  let whole := text.takeWhile Text.isDigit
  let afterWhole := text.dropWhile Text.isDigit
  let (fraction, exponent) :=
    match afterWhole with
    | '.' :: rest => (rest.takeWhile Text.isDigit, rest.dropWhile Text.isDigit)
    | _ => ([], afterWhole)
  let isExponent :=
    match exponent with
    | [] => true
    | mark :: rest =>
        let digits := if rest.head? = some '+' ∨ rest.head? = some '-' then rest.tail else rest
        (mark == 'e' || mark == 'E') && !digits.isEmpty && digits.all Text.isDigit
  (!(whole ++ fraction).isEmpty && isExponent) ||
    [Text.lit "inf", Text.lit "infinity", Text.lit "nan"].contains text.lowered

/-- Whether a text can be read as a value.  A number with a plus sign is the one value that is no
regular expression. -/
def isValue (text : Text) : Bool :=
  isExpression text ||
    match text with
    | '+' :: number => isNumber number
    | _ => false

end RunLine.Log.Pattern
