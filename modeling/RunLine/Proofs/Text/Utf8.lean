import Mathlib.Data.List.Infix
import RunLine.Text.Utf8

/-!
# Decoding and encoding

Bytes are well formed exactly if they are the bytes of a text, and then of one text only.  A byte
below 128 stands for the character of that number and for nothing else, so line ends can be looked
for among the bytes.
-/

namespace RunLine.Utf8

/-! ## Bytes and numbers -/

theorem toNat_toUInt8 {number : Nat} (small : number < 256) : number.toUInt8.toNat = number := by
  rw [Nat.toUInt8, UInt8.toNat_ofNat']
  exact Nat.mod_eq_of_lt small

theorem eq_toUInt8_iff {byte : UInt8} {number : Nat} (small : number < 256) :
    byte = number.toUInt8 ↔ byte.toNat = number := by
  rw [← UInt8.toNat_inj, toNat_toUInt8 small]

theorem tail?_eq_some_iff {byte : UInt8} {low : Nat} :
    tail? byte = some low ↔ low < 64 ∧ byte.toNat = 0x80 + low := by
  simp only [tail?, UInt8.le_iff_toNat_le, UInt8.lt_iff_toNat_lt, UInt8.reduceToNat,
    Option.ite_none_right_eq_some, Option.some.injEq]
  omega

theorem toNat_ofNat {code : Nat} (valid : code.isValidChar) : (Char.ofNat code).toNat = code := by
  rw [Char.ofNat, dif_pos valid]
  rfl

theorem scalar?_eq_some_iff {least code : Nat} {letter : Char} :
    scalar? least code = some letter ↔ least ≤ code ∧ letter.toNat = code := by
  rw [scalar?, Option.ite_none_right_eq_some, Option.some.injEq]
  constructor
  · rintro ⟨⟨enough, valid⟩, rfl⟩
    exact ⟨enough, toNat_ofNat valid⟩
  · rintro ⟨enough, rfl⟩
    exact ⟨⟨enough, letter.valid⟩, Char.ofNat_toNat letter⟩

/-! ## Decoding by the first byte -/

section Lead

variable {lead second third fourth : UInt8} {rest : Bytes}

theorem decode?_one (isOne : lead.toNat < 0x80) :
    decode? (lead :: rest) = (decode? rest).map (Char.ofNat lead.toNat :: ·) := by
  rw [decode?.eq_def]
  simp only [UInt8.lt_iff_toNat_lt, UInt8.reduceToNat]
  rw [if_pos isOne]

theorem decode?_two (atLeast : 0xC0 ≤ lead.toNat) (isTwo : lead.toNat < 0xE0) :
    decode? (lead :: second :: rest) =
      (tail? second).bind fun low =>
        (scalar? 0x80 ((lead.toNat - 0xC0) * 64 + low)).bind fun letter =>
          (decode? rest).map (letter :: ·) := by
  rw [decode?.eq_def]
  simp only [UInt8.lt_iff_toNat_lt, UInt8.reduceToNat]
  rw [if_neg (by omega), if_pos isTwo]
  simp only [if_neg (Nat.not_lt.mpr atLeast)]
  rfl

theorem decode?_three (atLeast : 0xE0 ≤ lead.toNat) (isThree : lead.toNat < 0xF0) :
    decode? (lead :: second :: third :: rest) =
      (tail? second).bind fun middle => (tail? third).bind fun low =>
        (scalar? 0x800 ((lead.toNat - 0xE0) * 4096 + middle * 64 + low)).bind fun letter =>
          (decode? rest).map (letter :: ·) := by
  rw [decode?.eq_def]
  simp only [UInt8.lt_iff_toNat_lt, UInt8.reduceToNat]
  rw [if_neg (by omega), if_neg (by omega), if_pos isThree]
  rfl

theorem decode?_four (atLeast : 0xF0 ≤ lead.toNat) :
    decode? (lead :: second :: third :: fourth :: rest) =
      (tail? second).bind fun upper => (tail? third).bind fun middle =>
        (tail? fourth).bind fun low =>
          (scalar? 0x10000 ((lead.toNat - 0xF0) * 262144 + upper * 4096 + middle * 64 + low)).bind
            fun letter => (decode? rest).map (letter :: ·) := by
  rw [decode?.eq_def]
  simp only [UInt8.lt_iff_toNat_lt, UInt8.reduceToNat]
  rw [if_neg (by omega), if_neg (by omega), if_neg (by omega)]
  rfl

theorem decode?_continuation (notOne : 0x80 ≤ lead.toNat) (low : lead.toNat < 0xC0) :
    decode? (lead :: rest) = none := by
  rw [decode?.eq_def]
  simp only [UInt8.lt_iff_toNat_lt, UInt8.reduceToNat]
  rw [if_neg (by omega)]
  cases rest with
  | nil => rfl
  | cons second rest =>
      simp only [if_pos low]
      rw [if_pos (by omega)]
      cases tail? second with
      | none => rfl
      | some payload => rfl

/-- A character does not end before the bytes that its first byte announces. -/
theorem decode?_truncated (lead second third : UInt8) :
    (0x80 ≤ lead.toNat → decode? [lead] = none) ∧
      (0xE0 ≤ lead.toNat → decode? [lead, second] = none) ∧
        (0xF0 ≤ lead.toNat → decode? [lead, second, third] = none) := by
  refine ⟨?_, ?_, ?_⟩
  · intro atLeast
    rw [decode?.eq_def]
    simp only [UInt8.lt_iff_toNat_lt, UInt8.reduceToNat]
    rw [if_neg (by omega)]
  · intro atLeast
    rw [decode?.eq_def]
    simp only [UInt8.lt_iff_toNat_lt, UInt8.reduceToNat]
    rw [if_neg (by omega), if_neg (by omega)]
  · intro atLeast
    rw [decode?.eq_def]
    simp only [UInt8.lt_iff_toNat_lt, UInt8.reduceToNat]
    rw [if_neg (by omega), if_neg (by omega), if_neg (by omega)]

end Lead

/-! ## One character -/

theorem encode_cons (letter : Char) (text : Text) :
    encode (letter :: text) = encodeChar letter ++ encode text := rfl

theorem encode_append (left right : Text) : encode (left ++ right) = encode left ++ encode right :=
  List.flatMap_append

theorem toNat_lt (letter : Char) : letter.toNat < 0x110000 := by
  rcases letter.valid with low | high
  · exact Nat.lt_trans low (by decide)
  · exact high.2

theorem tail?_toUInt8 (number : Nat) :
    tail? (0x80 + number % 64).toUInt8 = some (number % 64) := by
  rw [tail?_eq_some_iff, toNat_toUInt8 (by omega)]
  omega

/-- The bytes of a character are read back as that character, whatever follows them. -/
theorem decode?_encodeChar_append (letter : Char) (rest : Bytes) :
    decode? (encodeChar letter ++ rest) = (decode? rest).map (letter :: ·) := by
  have codeSmall := toNat_lt letter
  unfold encodeChar
  simp only
  split
  · next isOne =>
      have leadEq : letter.toNat.toUInt8.toNat = letter.toNat := toNat_toUInt8 (by omega)
      rw [List.singleton_append, decode?_one (by omega), leadEq, Char.ofNat_toNat]
  · split
    · next isTwo =>
        have leadEq : (0xC0 + letter.toNat / 64).toUInt8.toNat = 0xC0 + letter.toNat / 64 :=
          toNat_toUInt8 (by omega)
        have whole : scalar? 0x80 ((0xC0 + letter.toNat / 64 - 0xC0) * 64 + letter.toNat % 64) =
            some letter := scalar?_eq_some_iff.mpr (by omega)
        rw [List.cons_append, List.singleton_append, decode?_two (by omega) (by omega), leadEq,
          tail?_toUInt8, Option.bind_some, whole, Option.bind_some]
    · split
      · next isThree =>
          have leadEq : (0xE0 + letter.toNat / 4096).toUInt8.toNat = 0xE0 + letter.toNat / 4096 :=
            toNat_toUInt8 (by omega)
          have whole : scalar? 0x800 ((0xE0 + letter.toNat / 4096 - 0xE0) * 4096 +
              letter.toNat / 64 % 64 * 64 + letter.toNat % 64) = some letter :=
            scalar?_eq_some_iff.mpr (by omega)
          rw [List.cons_append, List.cons_append, List.singleton_append,
            decode?_three (by omega) (by omega), leadEq, tail?_toUInt8, tail?_toUInt8,
            Option.bind_some, Option.bind_some, whole, Option.bind_some]
      · have leadEq : (0xF0 + letter.toNat / 262144).toUInt8.toNat =
            0xF0 + letter.toNat / 262144 := toNat_toUInt8 (by omega)
        have whole : scalar? 0x10000 ((0xF0 + letter.toNat / 262144 - 0xF0) * 262144 +
            letter.toNat / 4096 % 64 * 4096 + letter.toNat / 64 % 64 * 64 + letter.toNat % 64) =
              some letter := scalar?_eq_some_iff.mpr (by omega)
        rw [List.cons_append, List.cons_append, List.cons_append, List.singleton_append,
          decode?_four (by omega), leadEq, tail?_toUInt8, tail?_toUInt8, tail?_toUInt8,
          Option.bind_some, Option.bind_some, Option.bind_some, whole, Option.bind_some]

/-- A character with the bytes that spell it comes first, and what follows is read as well. -/
def Starts (bytes : Bytes) (text : Text) : Prop :=
  ∃ letter after tail, bytes = encodeChar letter ++ after ∧ decode? after = some tail ∧
    text = letter :: tail

section Starts

variable {lead second third fourth : UInt8} {rest : Bytes} {text : Text}

theorem starts_one (isOne : lead.toNat < 0x80) (found : decode? (lead :: rest) = some text) :
    Starts (lead :: rest) text := by
  rw [decode?_one isOne] at found
  rcases Option.map_eq_some_iff.mp found with ⟨tail, foundTail, rfl⟩
  have code : (Char.ofNat lead.toNat).toNat = lead.toNat := toNat_ofNat (Or.inl (by omega))
  refine ⟨Char.ofNat lead.toNat, rest, tail, ?_, foundTail, rfl⟩
  rw [encodeChar, code, if_pos isOne, ← (eq_toUInt8_iff (by omega)).mpr rfl]
  rfl

theorem starts_two (atLeast : 0xC0 ≤ lead.toNat) (isTwo : lead.toNat < 0xE0)
    (found : decode? (lead :: second :: rest) = some text) :
    Starts (lead :: second :: rest) text := by
  rw [decode?_two atLeast isTwo] at found
  rcases Option.bind_eq_some_iff.mp found with ⟨low, foundLow, found⟩
  rcases Option.bind_eq_some_iff.mp found with ⟨letter, foundLetter, found⟩
  rcases Option.map_eq_some_iff.mp found with ⟨tail, foundTail, rfl⟩
  rcases tail?_eq_some_iff.mp foundLow with ⟨lowSmall, secondNat⟩
  rcases scalar?_eq_some_iff.mp foundLetter with ⟨least, code⟩
  have leadEq : lead = (0xC0 + letter.toNat / 64).toUInt8 :=
    (eq_toUInt8_iff (by omega)).mpr (by omega)
  have secondEq : second = (0x80 + letter.toNat % 64).toUInt8 :=
    (eq_toUInt8_iff (by omega)).mpr (by omega)
  refine ⟨letter, rest, tail, ?_, foundTail, rfl⟩
  rw [encodeChar, if_neg (by omega), if_pos (by omega), ← leadEq, ← secondEq]
  rfl

theorem starts_three (atLeast : 0xE0 ≤ lead.toNat) (isThree : lead.toNat < 0xF0)
    (found : decode? (lead :: second :: third :: rest) = some text) :
    Starts (lead :: second :: third :: rest) text := by
  rw [decode?_three atLeast isThree] at found
  rcases Option.bind_eq_some_iff.mp found with ⟨middle, foundMiddle, found⟩
  rcases Option.bind_eq_some_iff.mp found with ⟨low, foundLow, found⟩
  rcases Option.bind_eq_some_iff.mp found with ⟨letter, foundLetter, found⟩
  rcases Option.map_eq_some_iff.mp found with ⟨tail, foundTail, rfl⟩
  rcases tail?_eq_some_iff.mp foundMiddle with ⟨middleSmall, secondNat⟩
  rcases tail?_eq_some_iff.mp foundLow with ⟨lowSmall, thirdNat⟩
  rcases scalar?_eq_some_iff.mp foundLetter with ⟨least, code⟩
  have leadEq : lead = (0xE0 + letter.toNat / 4096).toUInt8 :=
    (eq_toUInt8_iff (by omega)).mpr (by omega)
  have secondEq : second = (0x80 + letter.toNat / 64 % 64).toUInt8 :=
    (eq_toUInt8_iff (by omega)).mpr (by omega)
  have thirdEq : third = (0x80 + letter.toNat % 64).toUInt8 :=
    (eq_toUInt8_iff (by omega)).mpr (by omega)
  refine ⟨letter, rest, tail, ?_, foundTail, rfl⟩
  rw [encodeChar, if_neg (by omega), if_neg (by omega), if_pos (by omega), ← leadEq, ← secondEq,
    ← thirdEq]
  rfl

theorem starts_four (atLeast : 0xF0 ≤ lead.toNat)
    (found : decode? (lead :: second :: third :: fourth :: rest) = some text) :
    Starts (lead :: second :: third :: fourth :: rest) text := by
  rw [decode?_four atLeast] at found
  rcases Option.bind_eq_some_iff.mp found with ⟨upper, foundUpper, found⟩
  rcases Option.bind_eq_some_iff.mp found with ⟨middle, foundMiddle, found⟩
  rcases Option.bind_eq_some_iff.mp found with ⟨low, foundLow, found⟩
  rcases Option.bind_eq_some_iff.mp found with ⟨letter, foundLetter, found⟩
  rcases Option.map_eq_some_iff.mp found with ⟨tail, foundTail, rfl⟩
  rcases tail?_eq_some_iff.mp foundUpper with ⟨upperSmall, secondNat⟩
  rcases tail?_eq_some_iff.mp foundMiddle with ⟨middleSmall, thirdNat⟩
  rcases tail?_eq_some_iff.mp foundLow with ⟨lowSmall, fourthNat⟩
  rcases scalar?_eq_some_iff.mp foundLetter with ⟨least, code⟩
  have codeSmall := toNat_lt letter
  have leadEq : lead = (0xF0 + letter.toNat / 262144).toUInt8 :=
    (eq_toUInt8_iff (by omega)).mpr (by omega)
  have secondEq : second = (0x80 + letter.toNat / 4096 % 64).toUInt8 :=
    (eq_toUInt8_iff (by omega)).mpr (by omega)
  have thirdEq : third = (0x80 + letter.toNat / 64 % 64).toUInt8 :=
    (eq_toUInt8_iff (by omega)).mpr (by omega)
  have fourthEq : fourth = (0x80 + letter.toNat % 64).toUInt8 :=
    (eq_toUInt8_iff (by omega)).mpr (by omega)
  refine ⟨letter, rest, tail, ?_, foundTail, rfl⟩
  rw [encodeChar, if_neg (by omega), if_neg (by omega), if_neg (by omega), ← leadEq, ← secondEq,
    ← thirdEq, ← fourthEq]
  rfl

theorem starts_of_decode? (found : decode? (lead :: rest) = some text) :
    Starts (lead :: rest) text := by
  by_cases isOne : lead.toNat < 0x80
  · exact starts_one isOne found
  by_cases continuation : lead.toNat < 0xC0
  · rw [decode?_continuation (by omega) continuation] at found
    cases found
  cases rest with
  | nil =>
      rw [(decode?_truncated lead 0 0).1 (by omega)] at found
      cases found
  | cons second rest =>
      by_cases isTwo : lead.toNat < 0xE0
      · exact starts_two (by omega) isTwo found
      cases rest with
      | nil =>
          rw [(decode?_truncated lead second 0).2.1 (by omega)] at found
          cases found
      | cons third rest =>
          by_cases isThree : lead.toNat < 0xF0
          · exact starts_three (by omega) isThree found
          cases rest with
          | nil =>
              rw [(decode?_truncated lead second third).2.2 (by omega)] at found
              cases found
          | cons fourth rest => exact starts_four (by omega) found

end Starts

/-! ## Texts -/

section Texts

variable {text : Text} {bytes : Bytes}

@[simp] theorem decode?_encode (text : Text) : decode? (encode text) = some text := by
  induction text with
  | nil => rfl
  | cons letter text ih => rw [encode_cons, decode?_encodeChar_append, ih, Option.map_some]

theorem encodeChar_ne_nil (letter : Char) : encodeChar letter ≠ [] := by
  unfold encodeChar
  simp only
  split
  · exact List.cons_ne_nil _ _
  · split
    · exact List.cons_ne_nil _ _
    · split
      · exact List.cons_ne_nil _ _
      · exact List.cons_ne_nil _ _

/-- Bytes are well formed exactly if they spell a text. -/
theorem decode?_eq_some_iff : decode? bytes = some text ↔ bytes = encode text := by
  constructor
  · induction sizeEq : bytes.length using Nat.strong_induction_on generalizing bytes text with
    | _ size ih =>
        intro found
        cases bytes with
        | nil =>
            simp only [decode?, Option.some.injEq] at found
            rw [← found]
            rfl
        | cons lead rest =>
            rcases starts_of_decode? found with ⟨letter, after, tail, bytesEq, foundTail, rfl⟩
            have positive := List.length_pos_iff.mpr (encodeChar_ne_nil letter)
            have shorter : after.length < size := by
              rw [← sizeEq, bytesEq, List.length_append]
              omega
            rw [bytesEq, ih _ shorter rfl foundTail, encode_cons]
  · rintro rfl
    exact decode?_encode text

theorem encode_eq_nil_iff : encode text = [] ↔ text = [] := by
  rw [eq_comm, ← decode?_eq_some_iff, decode?, Option.some_inj, eq_comm]

/-- A byte below 128 is the number of the character. -/
theorem toNat_eq_of_mem_encodeChar {letter : Char} {byte : UInt8}
    (member : byte ∈ encodeChar letter) (ascii : byte.toNat < 0x80) :
    letter.toNat = byte.toNat := by
  have codeSmall := toNat_lt letter
  have high : ∀ number, 0x80 ≤ number → number < 256 → byte ≠ number.toUInt8 := by
    rintro number notAscii small rfl
    rw [toNat_toUInt8 small] at ascii
    omega
  unfold encodeChar at member
  simp only at member
  split at member
  · rw [List.mem_singleton.mp member]
    exact (toNat_toUInt8 (by omega)).symm
  · exfalso
    split at member
    · simp only [List.mem_cons, List.not_mem_nil, or_false] at member
      rcases member with isLead | isSecond
      · exact high _ (by omega) (by omega) isLead
      · exact high _ (by omega) (by omega) isSecond
    · split at member
      · simp only [List.mem_cons, List.not_mem_nil, or_false] at member
        rcases member with isLead | isSecond | isThird
        · exact high _ (by omega) (by omega) isLead
        · exact high _ (by omega) (by omega) isSecond
        · exact high _ (by omega) (by omega) isThird
      · simp only [List.mem_cons, List.not_mem_nil, or_false] at member
        rcases member with isLead | isSecond | isThird | isFourth
        · exact high _ (by omega) (by omega) isLead
        · exact high _ (by omega) (by omega) isSecond
        · exact high _ (by omega) (by omega) isThird
        · exact high _ (by omega) (by omega) isFourth

/-- Nothing but the character itself brings in its byte. -/
theorem mem_of_mem_encode {letter : Char} {byte : UInt8} (code : letter.toNat = byte.toNat)
    (ascii : byte.toNat < 0x80) (member : byte ∈ encode text) : letter ∈ text := by
  rcases List.mem_flatMap.mp member with ⟨other, inText, inOther⟩
  have sameCode := toNat_eq_of_mem_encodeChar inOther ascii
  have same : other = letter := by
    rw [← Char.ofNat_toNat other, sameCode, ← code, Char.ofNat_toNat]
  rwa [← same]

/-- Nothing but the character itself ends a text in its byte. -/
theorem getLast?_eq_of_getLast?_encode {letter : Char} {byte : UInt8}
    (code : letter.toNat = byte.toNat) (ascii : byte.toNat < 0x80)
    (last : (encode text).getLast? = some byte) : text.getLast? = some letter := by
  induction text using List.reverseRecOn with
  | nil => cases last
  | append_singleton front other _ =>
      rw [List.getLast?_concat]
      have lastBytes : (encode [other]).getLast? = some byte := by
        have nonempty : encode [other] ≠ [] := by simpa [encode] using encodeChar_ne_nil other
        rwa [encode_append, List.getLast?_append_of_ne_nil _ nonempty] at last
      have inOther := mem_of_mem_encode code ascii (List.mem_of_getLast? lastBytes)
      rw [List.mem_singleton.mp inOther]

end Texts

end RunLine.Utf8
