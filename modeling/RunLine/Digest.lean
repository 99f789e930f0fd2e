import RunLine.Text
/-!
# SHA-256

The digest of a message, by FIPS 180-4.  Words are 32 bits wide and their sums wrap.  The message
schedule is a window of sixteen words that moves along with the rounds, so one round reads the word
at its front and puts one new word at its end.
-/

namespace RunLine.Digest

/-- A 32-bit word turned right. -/
def rotated (amount : UInt32) (word : UInt32) : UInt32 :=
  (word >>> amount) ||| (word <<< (32 - amount))

/-- The eight words that a block transforms. -/
structure State where
  a : UInt32
  b : UInt32
  c : UInt32
  d : UInt32
  e : UInt32
  f : UInt32
  g : UInt32
  h : UInt32
  deriving DecidableEq, Repr

/-- The words before the first block: fractions of the square roots of the first eight primes. -/
def State.initial : State :=
  ⟨0x6a09e667, 0xbb67ae85, 0x3c6ef372, 0xa54ff53a, 0x510e527f, 0x9b05688c, 0x1f83d9ab, 0x5be0cd19⟩

/-- One word for each round: fractions of the cube roots of the first sixty-four primes. -/
def roundWords : List UInt32 := [
  0x428a2f98, 0x71374491, 0xb5c0fbcf, 0xe9b5dba5, 0x3956c25b, 0x59f111f1, 0x923f82a4, 0xab1c5ed5,
  0xd807aa98, 0x12835b01, 0x243185be, 0x550c7dc3, 0x72be5d74, 0x80deb1fe, 0x9bdc06a7, 0xc19bf174,
  0xe49b69c1, 0xefbe4786, 0x0fc19dc6, 0x240ca1cc, 0x2de92c6f, 0x4a7484aa, 0x5cb0a9dc, 0x76f988da,
  0x983e5152, 0xa831c66d, 0xb00327c8, 0xbf597fc7, 0xc6e00bf3, 0xd5a79147, 0x06ca6351, 0x14292967,
  0x27b70a85, 0x2e1b2138, 0x4d2c6dfc, 0x53380d13, 0x650a7354, 0x766a0abb, 0x81c2c92e, 0x92722c85,
  0xa2bfe8a1, 0xa81a664b, 0xc24b8b70, 0xc76c51a3, 0xd192e819, 0xd6990624, 0xf40e3585, 0x106aa070,
  0x19a4c116, 0x1e376c08, 0x2748774c, 0x34b0bcb5, 0x391c0cb3, 0x4ed8aa4a, 0x5b9cca4f, 0x682e6ff3,
  0x748f82ee, 0x78a5636f, 0x84c87814, 0x8cc70208, 0x90befffa, 0xa4506ceb, 0xbef9a3f7, 0xc67178f2]

def State.round (state : State) (roundWord scheduled : UInt32) : State :=
  let mixE := rotated 6 state.e ^^^ rotated 11 state.e ^^^ rotated 25 state.e
  let choice := (state.e &&& state.f) ^^^ (~~~state.e &&& state.g)
  let first := state.h + mixE + choice + roundWord + scheduled
  let mixA := rotated 2 state.a ^^^ rotated 13 state.a ^^^ rotated 22 state.a
  let majority := (state.a &&& state.b) ^^^ (state.a &&& state.c) ^^^ (state.b &&& state.c)
  ⟨first + (mixA + majority), state.a, state.b, state.c, state.d + first, state.e, state.f, state.g⟩

/-- The word of a window at a position; a window always has sixteen. -/
def wordAt (window : List UInt32) (position : Nat) : UInt32 := window.getD position 0

/-- The window one round later. -/
def advance (window : List UInt32) : List UInt32 :=
  let early := wordAt window 1
  let late := wordAt window 14
  let mixEarly := rotated 7 early ^^^ rotated 18 early ^^^ (early >>> 3)
  let mixLate := rotated 17 late ^^^ rotated 19 late ^^^ (late >>> 10)
  window.tail ++ [wordAt window 0 + mixEarly + wordAt window 9 + mixLate]

/-- The rounds of one block, over the round words that remain. -/
def rounds : List UInt32 → List UInt32 → State → State
  | [], _, state => state
  | roundWord :: others, window, state =>
      rounds others (advance window) (state.round roundWord (wordAt window 0))

/-- What a block adds to the state before it. -/
def State.absorb (state : State) (block : List UInt32) : State :=
  let mixed := rounds roundWords block state
  ⟨state.a + mixed.a, state.b + mixed.b, state.c + mixed.c, state.d + mixed.d,
    state.e + mixed.e, state.f + mixed.f, state.g + mixed.g, state.h + mixed.h⟩

def bigEndian (width number : Nat) : Bytes :=
  (List.range width).map fun position => (number / Nat.pow 256 (width - 1 - position)).toUInt8

/-- Four bytes a word, the highest first. -/
def words : Bytes → List UInt32
  | a :: b :: c :: d :: rest =>
      ((a.toUInt32 <<< 24) ||| (b.toUInt32 <<< 16) ||| (c.toUInt32 <<< 8) ||| d.toUInt32) :: words rest
  | _ => []

/-- The message with its end mark, zeros, and its length in bits, a whole number of blocks long. -/
def padded (message : Bytes) : Bytes :=
  let size := message.length
  message ++ 0x80 :: (List.replicate ((119 - size % 64) % 64) 0 ++ bigEndian 8 (8 * size))

/-- The state after so many blocks of sixteen words. -/
def absorbBlocks : Nat → List UInt32 → State → State
  | 0, _, state => state
  | count + 1, schedule, state =>
      absorbBlocks count (schedule.drop 16) (state.absorb (schedule.take 16))

/-- The thirty-two digest bytes of a message. -/
def sha256 (message : Bytes) : Bytes :=
  let schedule := words (padded message)
  let state := absorbBlocks (schedule.length / 16) schedule State.initial
  [state.a, state.b, state.c, state.d, state.e, state.f, state.g, state.h].flatMap fun word =>
    bigEndian 4 word.toNat

end RunLine.Digest
