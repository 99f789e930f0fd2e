import Mathlib.Data.List.Infix
import RunLine.Json.Reader
import RunLine.Json.Writer
import RunLine.Proofs.Text.Utf8

/-!
# Spellings of strings

A string can be written in many ways: most characters may stand for themselves, and every character
may be escaped by its code, in two halves if the code is long.  The reader accepts exactly these
spellings, and the writer uses one of them.
-/

namespace RunLine.Json

/-! ## The grammar -/

/-- The written forms of one character within a string. -/
inductive Spelling : Text → Char → Prop where
  | plain {letter : Char} (notQuote : letter ≠ '"') (notEscape : letter ≠ '\\')
      (notControl : 0x20 ≤ letter.toNat) : Spelling [letter] letter
  | short {mark letter : Char} (known : shortEscape? mark = some letter) :
      Spelling ['\\', mark] letter
  | unit {a b c d letter : Char} (code : unit? a b c d = some letter.toNat) :
      Spelling ['\\', 'u', a, b, c, d] letter
  | pair {a b c d e f g h letter : Char} {high low : Nat} (highCode : unit? a b c d = some high)
      (lowCode : unit? e f g h = some low) (isHigh : isHighSurrogate high = true)
      (isLow : isLowSurrogate low = true)
      (code : letter.toNat = 0x10000 + (high - 0xD800) * 0x400 + (low - 0xDC00)) :
      Spelling ['\\', 'u', a, b, c, d, '\\', 'u', e, f, g, h] letter

/-- The written forms of a string, without its quotes. -/
inductive Spells : Text → Text → Prop where
  | nil : Spells [] []
  | cons {front written string : Text} {letter : Char} (first : Spelling front letter)
      (rest : Spells written string) : Spells (front ++ written) (letter :: string)

/-! ## Reading -/

/-- No character has the number of half a surrogate pair. -/
theorem not_surrogate (letter : Char) :
    isHighSurrogate letter.toNat = false ∧ isLowSurrogate letter.toNat = false := by
  simp only [isHighSurrogate, isLowSurrogate, Bool.and_eq_false_iff, decide_eq_false_iff_not]
  rcases letter.valid with low | ⟨high, -⟩
  · have below : letter.toNat < 0xD800 := low
    omega
  · have above : 0xDFFF < letter.toNat := high
    omega

theorem readString_short {mark letter : Char} (known : shortEscape? mark = some letter)
    (rest : Text) :
    readString ('\\' :: mark :: rest) =
      (readString rest).map fun read => (letter :: read.1, read.2) := by
  rw [readString.eq_4]
  · rw [known]
    cases readString rest with
    | none => rfl
    | some read => rfl
  · rintro a b c d after rfl -
    cases known

theorem readString_plain {letter : Char} (notQuote : letter ≠ '"') (notEscape : letter ≠ '\\')
    (notControl : 0x20 ≤ letter.toNat) (rest : Text) :
    readString (letter :: rest) =
      (readString rest).map fun read => (letter :: read.1, read.2) := by
  rw [readString.eq_5 letter rest notQuote (fun _ _ _ _ _ same _ => notEscape same)
    (fun _ _ same _ => notEscape same)]
  rw [if_neg (not_or.mpr ⟨notEscape, Nat.not_lt.mpr notControl⟩)]
  cases readString rest with
  | none => rfl
  | some read => rfl

theorem readString_unit {a b c d letter : Char} (code : unit? a b c d = some letter.toNat)
    (rest : Text) :
    readString ('\\' :: 'u' :: a :: b :: c :: d :: rest) =
      (readString rest).map fun read => (letter :: read.1, read.2) := by
  rcases not_surrogate letter with ⟨notHigh, notLow⟩
  rw [readString.eq_3, code, Option.bind_eq_bind, Option.bind_some, notHigh, notLow,
    Char.ofNat_toNat]
  cases readString rest with
  | none => rfl
  | some read => rfl

theorem readString_pair {a b c d e f g h letter : Char} {high low : Nat}
    (highCode : unit? a b c d = some high) (lowCode : unit? e f g h = some low)
    (isHigh : isHighSurrogate high = true) (isLow : isLowSurrogate low = true)
    (code : letter.toNat = 0x10000 + (high - 0xD800) * 0x400 + (low - 0xDC00)) (rest : Text) :
    readString ('\\' :: 'u' :: a :: b :: c :: d :: '\\' :: 'u' :: e :: f :: g :: h :: rest) =
      (readString rest).map fun read => (letter :: read.1, read.2) := by
  rw [readString.eq_3, highCode, Option.bind_eq_bind, Option.bind_some, isHigh, if_pos rfl]
  simp only
  rw [lowCode, Option.bind_eq_bind, Option.bind_some, isLow, if_pos rfl, ← code, Char.ofNat_toNat]
  cases readString rest with
  | none => rfl
  | some read => rfl

/-- Whatever follows, the written form of a character is read as that character. -/
theorem readString_append {front : Text} {letter : Char} (spelling : Spelling front letter)
    (rest : Text) :
    readString (front ++ rest) =
      (readString rest).map fun read => (letter :: read.1, read.2) := by
  cases spelling with
  | plain notQuote notEscape notControl => exact readString_plain notQuote notEscape notControl rest
  | short known => exact readString_short known rest
  | unit code => exact readString_unit code rest
  | pair highCode lowCode isHigh isLow code =>
      exact readString_pair highCode lowCode isHigh isLow code rest

theorem Spells.readString {written string : Text} (spells : Spells written string) (rest : Text) :
    readString (written ++ '"' :: rest) = some (string, rest) := by
  induction spells with
  | nil => rfl
  | cons first _ ih => rw [List.append_assoc, readString_append first, ih, Option.map_some]

/-- Four hexadecimal digits are a number of sixteen bits. -/
theorem unit?_lt {a b c d : Char} {code : Nat} (found : unit? a b c d = some code) :
    code < 0x10000 := by
  have step : ∀ {digit : Char} {value next : Nat},
      ((Text.digitValue? digit).bind fun size =>
        if size < 16 then some (value * 16 + size) else none) = some next →
        next < (value + 1) * 16 := by
    intro digit value next found
    rcases Option.bind_eq_some_iff.mp found with ⟨size, -, found⟩
    rcases Option.ite_none_right_eq_some.mp found with ⟨small, nextEq⟩
    cases nextEq
    omega
  simp only [unit?, Text.number?, List.isEmpty_cons, Bool.false_eq_true, if_false, List.foldlM_cons,
    List.foldlM_nil, Option.bind_eq_bind] at found
  rcases Option.bind_eq_some_iff.mp found with ⟨one, foundOne, found⟩
  rcases Option.bind_eq_some_iff.mp found with ⟨two, foundTwo, found⟩
  rcases Option.bind_eq_some_iff.mp found with ⟨three, foundThree, found⟩
  rcases Option.bind_eq_some_iff.mp found with ⟨four, foundFour, found⟩
  cases found
  have oneSmall := step foundOne
  have twoSmall := step foundTwo
  have threeSmall := step foundThree
  have fourSmall := step foundFour
  omega

theorem toNat_unit {code : Nat} (small : code < 0x10000) (notHigh : ¬ isHighSurrogate code = true)
    (notLow : ¬ isLowSurrogate code = true) : (Char.ofNat code).toNat = code := by
  apply Utf8.toNat_ofNat
  simp only [isHighSurrogate, isLowSurrogate, Bool.and_eq_true, decide_eq_true_eq] at notHigh notLow
  rw [Nat.isValidChar]
  omega

theorem toNat_pair {high low : Nat} (isHigh : isHighSurrogate high = true)
    (isLow : isLowSurrogate low = true) :
    (Char.ofNat (0x10000 + (high - 0xD800) * 0x400 + (low - 0xDC00))).toNat =
      0x10000 + (high - 0xD800) * 0x400 + (low - 0xDC00) := by
  apply Utf8.toNat_ofNat
  simp only [isHighSurrogate, isLowSurrogate, Bool.and_eq_true, decide_eq_true_eq] at isHigh isLow
  rw [Nat.isValidChar]
  omega

/-- What the reader takes off the front is a character with a written form. -/
theorem exists_spelling_of_readString {text string rest : Text}
    (found : readString text = some (string, rest)) :
    ∃ written, text = written ++ '"' :: rest ∧ Spells written string := by
  induction text using readString.induct generalizing string with
  | case1 => cases found
  | case2 after =>
      rw [readString.eq_2] at found
      cases found
      exact ⟨[], rfl, .nil⟩
  | case3 a b c d after pairIH ih =>
      rw [readString.eq_3] at found
      rcases Option.bind_eq_some_iff.mp found with ⟨code, foundCode, found⟩
      by_cases isHigh : isHighSurrogate code = true
      · rw [if_pos isHigh] at found
        split at found
        · next e f g h after _ =>
            simp only at pairIH
            rcases Option.bind_eq_some_iff.mp found with ⟨low, foundLow, found⟩
            by_cases isLow : isLowSurrogate low = true
            · rw [if_pos isLow] at found
              rcases Option.bind_eq_some_iff.mp found with ⟨⟨tail, rest'⟩, foundTail, found⟩
              cases found
              rcases pairIH foundTail with ⟨written, afterEq, spells⟩
              have code := toNat_pair isHigh isLow
              exact ⟨['\\', 'u', a, b, c, d, '\\', 'u', e, f, g, h] ++ written, by simp [afterEq],
                .cons (.pair foundCode foundLow isHigh isLow code) spells⟩
            · rw [if_neg isLow] at found
              cases found
        · cases found
      · rw [if_neg isHigh] at found
        by_cases isLow : isLowSurrogate code = true
        · rw [if_pos isLow] at found
          cases found
        · rw [if_neg isLow] at found
          rcases Option.bind_eq_some_iff.mp found with ⟨⟨tail, rest'⟩, foundTail, found⟩
          cases found
          rcases ih foundTail with ⟨written, afterEq, spells⟩
          rw [← toNat_unit (unit?_lt foundCode) isHigh isLow] at foundCode
          exact ⟨['\\', 'u', a, b, c, d] ++ written, by simp [afterEq],
            .cons (.unit foundCode) spells⟩
  | case4 mark after notUnit ih =>
      rw [readString.eq_4 mark after notUnit] at found
      rcases Option.bind_eq_some_iff.mp found with ⟨letter, known, found⟩
      rcases Option.bind_eq_some_iff.mp found with ⟨⟨tail, rest'⟩, foundTail, found⟩
      cases found
      rcases ih foundTail with ⟨written, afterEq, spells⟩
      exact ⟨['\\', mark] ++ written, by simp [afterEq], .cons (.short known) spells⟩
  | case5 letter after notQuote notUnit notShort broken =>
      rw [readString.eq_5 letter after notQuote notUnit notShort, if_pos broken] at found
      cases found
  | case6 letter after notQuote notUnit notShort plain ih =>
      rw [readString.eq_5 letter after notQuote notUnit notShort, if_neg plain] at found
      rcases Option.bind_eq_some_iff.mp found with ⟨⟨tail, rest'⟩, foundTail, found⟩
      cases found
      rcases not_or.mp plain with ⟨notEscape, notControl⟩
      rcases ih foundTail with ⟨written, afterEq, spells⟩
      exact ⟨[letter] ++ written, by simp [afterEq],
        .cons (.plain notQuote notEscape (Nat.not_lt.mp notControl)) spells⟩

/-- A string is read up to its closing quote exactly if a spelling of it stands there. -/
theorem readString_eq_some_iff {text string rest : Text} :
    readString text = some (string, rest) ↔
      ∃ written, text = written ++ '"' :: rest ∧ Spells written string := by
  constructor
  · exact exists_spelling_of_readString
  · rintro ⟨written, rfl, spells⟩
    exact spells.readString rest

/-! ## Writing -/

/-- What is written for a character is one of its written forms. -/
theorem spelling_escaped (letter : Char) : Spelling (escaped letter) letter := by
  have control : ∀ code < 0x20, unit? '0' '0' (Nat.digitChar (code / 16))
      (Nat.digitChar (code % 16)) = some code := by decide
  unfold escaped
  by_cases isQuote : letter = '"'
  · rw [if_pos isQuote, isQuote]
    exact .short rfl
  by_cases isEscape : letter = '\\'
  · rw [if_neg isQuote, if_pos isEscape, isEscape]
    exact .short rfl
  rw [if_neg isQuote, if_neg isEscape]
  split
  · next isBackspace => exact .short (isBackspace ▸ rfl)
  split
  · next isFeed => exact .short (isFeed ▸ rfl)
  split
  · next isNewline => exact .short (isNewline ▸ rfl)
  split
  · next isReturn => exact .short (isReturn ▸ rfl)
  split
  · next isTab => exact .short (isTab ▸ rfl)
  split
  · next isControl => exact .unit (control letter.toNat isControl)
  · next notControl => exact .plain isQuote isEscape (Nat.not_lt.mp notControl)

theorem spells_escaped (string : Text) : Spells (string.flatMap escaped) string := by
  induction string with
  | nil => exact .nil
  | cons letter string ih => exact .cons (spelling_escaped letter) ih

end RunLine.Json
