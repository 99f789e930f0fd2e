import RunLine.Text
/-!
# UTF-8

The byte form of a text.  Decoding accepts shortest forms of scalar values only: no surrogates, no
overlong forms, nothing above U+10FFFF.  To be shown, bytes that are malformed are replaced: as many
of them as a character could begin with by one sign.
-/

namespace RunLine.Utf8

def encodeChar (letter : Char) : Bytes :=
  let code := letter.toNat
  if code < 0x80 then [code.toUInt8]
  else if code < 0x800 then [(0xC0 + code / 64).toUInt8, (0x80 + code % 64).toUInt8]
  else if code < 0x10000 then
    [(0xE0 + code / 4096).toUInt8, (0x80 + code / 64 % 64).toUInt8, (0x80 + code % 64).toUInt8]
  else
    [(0xF0 + code / 262144).toUInt8, (0x80 + code / 4096 % 64).toUInt8,
      (0x80 + code / 64 % 64).toUInt8, (0x80 + code % 64).toUInt8]

def encode (text : Text) : Bytes := text.flatMap encodeChar

/-- The six payload bits of a continuation byte. -/
def tail? (byte : UInt8) : Option Nat :=
  if 0x80 ≤ byte ∧ byte < 0xC0 then some (byte.toNat - 0x80) else none

/-- The character with a code, provided the code is at least the least one of its byte length. -/
def scalar? (least code : Nat) : Option Char :=
  if least ≤ code ∧ code.isValidChar then some (Char.ofNat code) else none

/-- The text that bytes stand for, if they are well formed. -/
def decode? : Bytes → Option Text
  | [] => some []
  | lead :: rest =>
      if lead < 0x80 then (decode? rest).map (Char.ofNat lead.toNat :: ·)
      else
        match rest with
        | [] => none
        | second :: rest =>
            if lead < 0xE0 then do
              let low ← tail? second
              if lead < 0xC0 then none
              let letter ← scalar? 0x80 ((lead.toNat - 0xC0) * 64 + low)
              (decode? rest).map (letter :: ·)
            else
              match rest with
              | [] => none
              | third :: rest =>
                  if lead < 0xF0 then do
                    let middle ← tail? second
                    let low ← tail? third
                    let letter ← scalar? 0x800 ((lead.toNat - 0xE0) * 4096 + middle * 64 + low)
                    (decode? rest).map (letter :: ·)
                  else
                    match rest with
                    | [] => none
                    | fourth :: rest => do
                        let upper ← tail? second
                        let middle ← tail? third
                        let low ← tail? fourth
                        let letter ←
                          scalar? 0x10000
                            ((lead.toNat - 0xF0) * 262144 + upper * 4096 + middle * 64 + low)
                        (decode? rest).map (letter :: ·)

/-- How many bytes follow the first one of a character, and the least and the greatest of what the
next one may be. -/
def follow? (lead : UInt8) : Option (Nat × UInt8 × UInt8) :=
  if lead < 0xC2 then none
  else if lead < 0xE0 then some (1, 0x80, 0xBF)
  else if lead = 0xE0 then some (2, 0xA0, 0xBF)
  else if lead = 0xED then some (2, 0x80, 0x9F)
  else if lead < 0xF0 then some (2, 0x80, 0xBF)
  else if lead = 0xF0 then some (3, 0x90, 0xBF)
  else if lead < 0xF4 then some (3, 0x80, 0xBF)
  else if lead = 0xF4 then some (3, 0x80, 0x8F)
  else none

/-- How many bytes after the first one continue what it begins. -/
def continued (lead : UInt8) (rest : Bytes) : Nat :=
  match follow? lead, rest with
  | some (count, least, greatest), second :: rest =>
      if least ≤ second ∧ second ≤ greatest then
        1 + ((rest.take (count - 1)).takeWhile fun byte => (tail? byte).isSome).length
      else 0
  | _, _ => 0

/-- What stands for malformed bytes. -/
def replacement : Char := '\uFFFD'

/-- The text of bytes after so many of them, with a sign for each malformed sequence. -/
def repairAfter : Nat → Bytes → Text
  | _, [] => []
  | skipped + 1, _ :: rest => repairAfter skipped rest
  | 0, lead :: rest =>
      let count := continued lead rest
      (decode? (lead :: rest.take count)).getD [replacement] ++ repairAfter count rest

/-- The text of bytes with a sign for each malformed sequence. -/
def repair (bytes : Bytes) : Text := repairAfter 0 bytes

/-- A character that is cut off is one malformed sequence, and an overlong form is several. -/
example : repair [0x61, 0xE2, 0x82, 0x62, 0xC0, 0xAF, 0xC3, 0xA9] =
    ['a', replacement, 'b', replacement, replacement, 'é'] := by decide

end RunLine.Utf8
