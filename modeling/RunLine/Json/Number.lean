import RunLine.Json
/-!
# Numbers in JSON

An optional minus sign, an integer part without needless zeros, an optional fraction and an optional
exponent.  The significand is collected digit by digit as long as it fits 64 bits; later digits of
the integer part raise the exponent, later digits of the fraction are dropped.  A number beyond the
range of binary floating point is refused.
-/

namespace RunLine.Json

/-- The largest number that 64 bits hold. -/
def largestWord : Nat := Nat.pow 2 64 - 1

/-- A number rounded to 53 significant bits, a tie to the even neighbour. -/
def rounded (number : Nat) : Nat :=
  let excess := (Nat.log2 number + 1) - 53
  let unit := Nat.pow 2 excess
  let low := number % unit
  let floor := number / unit
  if 2 * low < unit ∨ (2 * low = unit ∧ floor % 2 = 0) then floor * unit else (floor + 1) * unit

/-- The least number that rounds to infinity in binary floating point of 64 bits. -/
def infinite : Nat := Nat.pow 2 1024 - Nat.pow 2 970

/-- Whether a decimal lies beyond binary floating point.  The significand and the power of ten are
rounded before they are multiplied. -/
def isTooLarge (significand : Nat) (exponent : Int) : Bool :=
  significand != 0 &&
    match exponent with
    | .ofNat power => 308 < power || infinite ≤ rounded significand * rounded (Nat.pow 10 power)
    | .negSucc _ => false

/-- A significand with the digits that still fit, and the digits that do not. -/
def absorb (significand : Nat) : Text → Nat × Text
  | [] => (significand, [])
  | digit :: rest =>
      let extended := significand * 10 + (digit.toNat - '0'.toNat)
      if largestWord < extended then (significand, digit :: rest) else absorb extended rest

/-- The digits of an integer part: a lone zero, or a run that does not start with one. -/
def readInteger (text : Text) : Option (Text × Text) :=
  match text with
  | '0' :: rest => if (rest.head?.map Text.isDigit).getD false then none else some (['0'], rest)
  | _ =>
      match text.span Text.isDigit with
      | ([], _) => none
      | (digits, rest) => some (digits, rest)

/-- The digits after a point, if there is a point. -/
def readFraction (text : Text) : Option (Option Text × Text) :=
  match text with
  | '.' :: rest =>
      match rest.span Text.isDigit with
      | ([], _) => none
      | (digits, rest) => some (some digits, rest)
  | _ => some (none, text)

/-- The sign and the digits of an exponent that follow its letter. -/
def readExponentDigits (negative : Bool) (text : Text) : Option (Option Int × Text) :=
  match text.span Text.isDigit with
  | ([], _) => none
  | (digits, rest) => do
      let size ← Text.number? 10 digits
      some (some (if negative then -(size : Int) else size), rest)

def readExponent (text : Text) : Option (Option Int × Text) :=
  match text with
  | letter :: rest =>
      if letter = 'e' ∨ letter = 'E' then
        match rest with
        | '+' :: rest => readExponentDigits false rest
        | '-' :: rest => readExponentDigits true rest
        | _ => readExponentDigits false rest
      else some (none, text)
  | [] => some (none, [])

/-- The value of a number by its parts.  Minus zero and integers of more than 64 bits count as
floating point. -/
def numberOfParts (negative : Bool) (digits : Text) (fraction : Option Text) (exponent : Option Int) :
    Option Json :=
  let (whole, surplus) := absorb 0 digits
  let (significand, dropped) := absorb whole (fraction.getD [])
  let kept : Nat := (fraction.getD []).length - dropped.length
  let power : Int := surplus.length - kept + exponent.getD 0
  let isInteger :=
    fraction.isNone && exponent.isNone && surplus.isEmpty &&
      (if negative then significand != 0 && significand ≤ Nat.pow 2 63 else true)
  if isInteger then
    some (.integer (if negative then -(significand : Int) else significand))
  else if isTooLarge significand power then none
  else some (.float negative significand power)

/-- A number without its sign at the front of a text, and what follows it. -/
def readUnsigned (negative : Bool) (text : Text) : Option (Json × Text) := do
  let (digits, rest) ← readInteger text
  let (fraction, rest) ← readFraction rest
  let (exponent, rest) ← readExponent rest
  let value ← numberOfParts negative digits fraction exponent
  some (value, rest)

/-- The number at the front of a text, and what follows it. -/
def readNumber (text : Text) : Option (Json × Text) :=
  match text with
  | '-' :: rest => readUnsigned true rest
  | _ => readUnsigned false text

end RunLine.Json
