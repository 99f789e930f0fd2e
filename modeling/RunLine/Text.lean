/-!
# Text and bytes

A text is a list of characters and raw data is a list of bytes.  Everything said about a line of
commands is said about such lists, so that cutting, searching and substituting are recursions on the
data.
-/

namespace RunLine

/-- Characters in reading order. -/
abbrev Text := List Char

/-- Raw bytes in reading order. -/
abbrev Bytes := List UInt8

namespace Text

abbrev lit (literal : String) : Text := literal.toList

/-- Whether a pattern stands somewhere in the text. -/
def holds (pattern : Text) : Text → Bool
  | [] => pattern.isEmpty
  | letter :: rest => pattern.isPrefixOf (letter :: rest) || holds pattern rest

/-- A decimal digit, ASCII only: every number the library reads is written in these. -/
def isDigit (letter : Char) : Bool := '0' ≤ letter && letter ≤ '9'

/-- The value of a digit in bases up to sixteen, in either case. -/
def digitValue? (letter : Char) : Option Nat :=
  if '0' ≤ letter ∧ letter ≤ '9' then some (letter.toNat - '0'.toNat)
  else if 'a' ≤ letter ∧ letter ≤ 'f' then some (letter.toNat - 'a'.toNat + 10)
  else if 'A' ≤ letter ∧ letter ≤ 'F' then some (letter.toNat - 'A'.toNat + 10)
  else none

/-- The number a non-empty run of digits spells in a base. -/
def number? (base : Nat) (digits : Text) : Option Nat :=
  if digits.isEmpty then none
  else
    digits.foldlM
      (fun value letter => do
        let digit ← digitValue? letter
        if digit < base then some (value * base + digit) else none)
      0

def ofNat (number : Nat) : Text := Nat.toDigits 10 number

/-- The text with its ASCII letters in lower case. -/
def lowered (text : Text) : Text := text.map Char.toLower

end Text

end RunLine
