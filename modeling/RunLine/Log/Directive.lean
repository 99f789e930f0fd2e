import RunLine.Log.Level
import RunLine.Log.Pattern
import RunLine.Text.Utf8
/-!
# Directives

A directive sets a level.  It may be for one target only, for what happens inside of spans of one
name, and for spans or messages that have a certain field:

    level      target      target=level      target[span]=level      [span{field=value}]

The form of a directive is found out on the text without blanks at its ends.  The parts, however, are
cut from the text as it is written, at the byte positions where they stand in the other; so blanks in
front shift them, and blanks at the end belong to the last one.  Shifted positions may fall into the
middle of a character, and then there is nothing to cut.
-/

namespace RunLine.Log

/-- Why there is no directive. -/
inductive Unreadable where
  | malformed
  /-- A part would begin or end inside of a character. -/
  | splitCharacter
  deriving DecidableEq, Repr

/-- A field by its name, and the value it is to have, if any. -/
structure Field where
  name : Text
  value : Option Text
  deriving DecidableEq, Repr

/-- A level and what it is for. -/
structure Directive where
  /-- What its targets start with. -/
  target : Option Text
  /-- The name of the spans. -/
  span : Option Text
  field : Option Field
  level : Level
  deriving DecidableEq, Repr

/-! ## Parts -/

/-- How many bytes a text takes. -/
def byteLength (text : Text) : Nat := (Utf8.encode text).length

/-- The text up to a byte position and the text after it. -/
def splitAtByte? : Nat → Text → Option (Text × Text)
  | 0, text => some ([], text)
  | _ + 1, [] => none
  | position + 1, letter :: rest =>
      let length := (Utf8.encodeChar letter).length
      if position + 1 < length then none
      else (splitAtByte? (position + 1 - length) rest).map fun parts => (letter :: parts.1, parts.2)

/-- The text from a byte position on. -/
def cutFrom (written : Text) (start : Nat) : Except Unreadable Text :=
  match splitAtByte? start written with
  | some (_, part) => .ok part
  | none => .error .splitCharacter

/-- The text between two byte positions. -/
def cut (written : Text) (start stop : Nat) : Except Unreadable Text := do
  let part ← cutFrom written start
  match splitAtByte? (stop - start) part with
  | some (part, _) => .ok part
  | none => .error .splitCharacter

/-- What is shown where no level is written. -/
def unleveled : Level := .trace

/-- The level after an equals sign. -/
def readLevel (text : Text) : Except Unreadable Level :=
  if text.isEmpty then .ok unleveled
  else
    match Level.ofText? text with
    | some level => .ok level
    | none => .error .malformed

/-- The field that a text writes.  A second equals sign ends the value. -/
def readField (text : Text) : Except Unreadable Field :=
  if text.isEmpty then .error .malformed
  else
    match text.splitOn '=' with
    | name :: value :: _ =>
        if Pattern.isValue value then .ok ⟨name, some value⟩ else .error .malformed
    | _ => .ok ⟨text, none⟩

/-! ## Whole directives

Each of these is given the text as written, a position, and the rest of the trimmed text from that
position on. -/

/-- The level that a directive ends with after its spans. -/
def readEnd (written : Text) (position : Nat) : Text → Except Unreadable Level
  | [] => .ok unleveled
  | '=' :: _ => do readLevel (← cutFrom written (position + 1))
  | _ => .error .malformed

/-- The spans that a directive is for, after the opening bracket, and the rest of it. -/
def readSpan (written : Text) (target : Option Text) (start : Nat) (rest : Text) :
    Except Unreadable Directive := do
  let name := rest.takeWhile fun letter => letter ≠ ']' && letter ≠ '{'
  let stop := start + byteLength name
  match rest.drop name.length with
  | ']' :: rest =>
      let span ← cut written start stop
      let level ← readEnd written (stop + 1) rest
      return ⟨target, some span, none, level⟩
  | '{' :: rest =>
      let span ← cut written start stop
      let content := rest.takeWhile (· ≠ '}')
      let closing := stop + 1 + byteLength content
      match rest.drop content.length with
      | '}' :: rest =>
          let field ← readField (← cut written (stop + 1) closing)
          match rest with
          | ']' :: rest =>
              let level ← readEnd written (closing + 2) rest
              return ⟨target, if span.isEmpty then none else some span, some field, level⟩
          | _ => .error .malformed
      | _ => .error .malformed
  | _ => .error .malformed

/-- The characters with which a level or a target may start. -/
def startsName (letter : Char) : Bool :=
  (Text.lit "-:_").contains letter || Text.isAlphanumeric letter

/-- The directive that a text writes. -/
def Directive.read (written : Text) : Except Unreadable Directive :=
  let text := written.trimmed
  match text with
  | [] => .error .malformed
  | '[' :: rest => readSpan written none 1 rest
  | letter :: _ =>
      if !startsName letter then .error .malformed
      else do
        let name := text.takeWhile fun letter => letter ≠ '=' && letter ≠ '['
        let stop := byteLength name
        match text.drop name.length with
        | '=' :: _ =>
            let target ← cut written 0 stop
            let level ← readLevel (← cutFrom written (stop + 1))
            return ⟨some target, none, none, level⟩
        | '[' :: rest =>
            let target ← cut written 0 stop
            readSpan written (some target) (stop + 1) rest
        | _ =>
            match Level.ofText? written with
            | some level => return ⟨none, none, none, level⟩
            | none => return ⟨some written, none, none, unleveled⟩

/-- Whether a directive can say something about a message outside of all spans. -/
def Directive.concernsMessages (directive : Directive) : Bool :=
  directive.span.isNone && directive.field.all (·.value.isNone)

end RunLine.Log
