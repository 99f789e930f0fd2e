import Mathlib.Data.List.TakeWhile
import RunLine.Proofs.Json.Strings

/-!
# Texts that are strings

A whole text states a string exactly if a spelling of it stands between quotes, with nothing but
blanks around them.  Spellings hold no control characters, so a string encoded without blanks
fits on a line.
-/

namespace RunLine.Json

/-! ## Blanks -/

theorem skipBlanks_append {lead : Text} (blank : ∀ letter ∈ lead, isBlank letter = true)
    (rest : Text) : skipBlanks (lead ++ rest) = skipBlanks rest :=
  List.dropWhile_append_of_pos blank

theorem skipBlanks_of_blank {text : Text} (blank : ∀ letter ∈ text, isBlank letter = true) :
    skipBlanks text = [] := List.dropWhile_eq_nil_iff.mpr blank

/-- Blanks stand before what is left when they are skipped. -/
theorem exists_blanks (text : Text) :
    ∃ lead, text = lead ++ skipBlanks text ∧ ∀ letter ∈ lead, isBlank letter = true := by
  refine ⟨text.takeWhile isBlank, List.takeWhile_append_dropWhile.symm, ?_⟩
  intro letter member
  exact List.mem_takeWhile_imp member

theorem blank_of_skipBlanks {text : Text} (skipped : (skipBlanks text).isEmpty = true) :
    ∀ letter ∈ text, isBlank letter = true :=
  List.dropWhile_eq_nil_iff.mp (List.isEmpty_iff.mp skipped)

theorem skipBlanks_cons {letter : Char} (visible : isBlank letter = false) (rest : Text) :
    skipBlanks (letter :: rest) = letter :: rest :=
  List.dropWhile_cons_of_neg (by simp [visible])

theorem skipBlanks_idem (text : Text) : skipBlanks (skipBlanks text) = skipBlanks text := by
  rcases exists_blanks text with ⟨lead, textEq, leadBlank⟩
  have skipped := skipBlanks_append leadBlank (skipBlanks text)
  rw [← textEq] at skipped
  exact skipped.symm

/-! ## Whole texts -/

/-- The texts whose value is a string: a spelling between quotes, with blanks around it. -/
inductive SpellsWhole : Text → Text → Prop where
  | intro {lead written trail string : Text} (leadBlank : ∀ letter ∈ lead, isBlank letter = true)
      (spells : Spells written string) (trailBlank : ∀ letter ∈ trail, isBlank letter = true) :
      SpellsWhole (lead ++ '"' :: (written ++ '"' :: trail)) string

theorem readValue_quote (depth : Nat) (rest : Text) :
    readValue depth ('"' :: rest) =
      (readString rest).map fun read => (.string read.1, read.2) := by
  cases depth <;> exact readValue.eq_4 _ _

/-- A number is no string. -/
theorem ne_string_of_readNumber {text string rest : Text} :
    readNumber text ≠ some (.string string, rest) := by
  have parts : ∀ negative digits fraction exponent,
      numberOfParts negative digits fraction exponent ≠ some (.string string) := by
    intro negative digits fraction exponent found
    simp only [numberOfParts] at found
    split_ifs at found <;> cases found
  have unsigned : ∀ negative text, readUnsigned negative text ≠ some (.string string, rest) := by
    intro negative text found
    rcases Option.bind_eq_some_iff.mp found with ⟨⟨digits, afterDigits⟩, -, found⟩
    rcases Option.bind_eq_some_iff.mp found with ⟨⟨fraction, afterFraction⟩, -, found⟩
    rcases Option.bind_eq_some_iff.mp found with ⟨⟨exponent, afterExponent⟩, -, found⟩
    rcases Option.bind_eq_some_iff.mp found with ⟨value, foundValue, found⟩
    cases found
    exact parts _ _ _ _ foundValue
  unfold readNumber
  split
  · exact unsigned _ _
  · exact unsigned _ _

theorem exists_quote_of_readValue {depth : Nat} {text string rest : Text}
    (found : readValue depth text = some (.string string, rest)) :
    ∃ inside, text = '"' :: inside ∧ readString inside = some (string, rest) := by
  unfold readValue at found
  split at found
  · cases found
  · cases found
  · cases found
  · next inside =>
      rcases Option.map_eq_some_iff.mp found with ⟨⟨read, after⟩, foundString, same⟩
      cases same
      exact ⟨inside, rfl, foundString⟩
  · rcases Option.map_eq_some_iff.mp found with ⟨read, -, same⟩
    cases same
  · rcases Option.map_eq_some_iff.mp found with ⟨read, -, same⟩
    cases same
  · exact absurd found ne_string_of_readNumber

/-- A whole text states a string exactly if it is a spelling of it. -/
theorem read?_eq_string_iff {text string : Text} :
    read? text = some (.string string) ↔ SpellsWhole text string := by
  constructor
  · intro found
    rcases Option.bind_eq_some_iff.mp found with ⟨⟨value, rest⟩, foundValue, found⟩
    rcases Option.ite_none_right_eq_some.mp found with ⟨restBlank, same⟩
    cases same
    rcases exists_quote_of_readValue foundValue with ⟨inside, skipped, foundString⟩
    rcases exists_spelling_of_readString foundString with ⟨written, rfl, spells⟩
    rcases exists_blanks text with ⟨lead, textEq, leadBlank⟩
    rw [textEq, skipped]
    exact .intro leadBlank spells (blank_of_skipBlanks restBlank)
  · rintro ⟨leadBlank, spells, trailBlank⟩
    rw [read?, skipBlanks_append leadBlank, skipBlanks_cons rfl, readValue_quote,
      spells.readString, Option.map_some, Option.bind_eq_bind, Option.bind_some]
    simp only
    rw [skipBlanks_of_blank trailBlank]
    rfl

/-! ## Control characters -/

theorem isSome_digitValue?_of_number? {base value : Nat} {digits : Text}
    (found : Text.number? base digits = some value) :
    ∀ letter ∈ digits, (Text.digitValue? letter).isSome = true := by
  rw [Text.number?] at found
  replace found := (Option.ite_none_left_eq_some.mp found).2
  generalize 0 = start at found
  induction digits generalizing start with
  | nil => simp
  | cons digit digits ih =>
      rw [List.foldlM_cons] at found
      rcases Option.bind_eq_some_iff.mp found with ⟨next, foundNext, foundRest⟩
      rcases Option.bind_eq_some_iff.mp foundNext with ⟨size, foundSize, -⟩
      intro letter member
      cases member with
      | head => rw [foundSize]; rfl
      | tail _ member => exact ih next foundRest letter member

/-- No digit is a control character. -/
theorem notControl_of_digitValue? {letter : Char}
    (digit : (Text.digitValue? letter).isSome = true) : 0x20 ≤ letter.toNat := by
  unfold Text.digitValue? at digit
  split at digit
  · next decimal =>
    have above : '0'.toNat ≤ letter.toNat := decimal.1
    exact le_trans (by decide) above
  split at digit
  · next small =>
    have above : 'a'.toNat ≤ letter.toNat := small.1
    exact le_trans (by decide) above
  split at digit
  · next capital =>
    have above : 'A'.toNat ≤ letter.toNat := capital.1
    exact le_trans (by decide) above
  · cases digit

theorem notControl_of_unit? {a b c d : Char} {code : Nat} (found : unit? a b c d = some code) :
    ∀ letter ∈ [a, b, c, d], 0x20 ≤ letter.toNat := by
  intro letter member
  exact notControl_of_digitValue? (isSome_digitValue?_of_number? found letter member)

theorem notControl_of_shortEscape? {mark letter : Char} (known : shortEscape? mark = some letter) :
    0x20 ≤ mark.toNat := by
  unfold shortEscape? at known
  split at known <;> first | decide | cases known

/-- Control characters are written in escapes, so a spelling holds none. -/
theorem Spelling.notControl {front : Text} {letter : Char} (spelling : Spelling front letter) :
    ∀ other ∈ front, 0x20 ≤ other.toNat := by
  cases spelling with
  | plain _ _ notControl => simpa using notControl
  | short known => simpa using notControl_of_shortEscape? known
  | unit code => simpa using notControl_of_unit? code
  | pair highCode lowCode =>
      have first := notControl_of_unit? highCode
      have second := notControl_of_unit? lowCode
      simp only [List.forall_mem_cons] at first second ⊢
      exact ⟨by decide, by decide, first.1, first.2.1, first.2.2.1, first.2.2.2.1, by decide,
        by decide, second⟩

theorem Spells.notControl {written string : Text} (spells : Spells written string) :
    ∀ letter ∈ written, 0x20 ≤ letter.toNat := by
  induction spells with
  | nil => simp
  | cons first _ ih =>
      intro letter member
      cases List.mem_append.mp member with
      | inl inFront => exact first.notControl letter inFront
      | inr inRest => exact ih letter inRest

/-! ## Encodings without blanks -/

/-- The encodings of a string: its spellings between quotes. -/
inductive Encodes : Text → Text → Prop where
  | intro {written string : Text} (spells : Spells written string) :
      Encodes ('"' :: (written ++ ['"'])) string

/-- An encoding is what the reader takes whole. -/
theorem encodes_iff {rest string : Text} :
    Encodes ('"' :: rest) string ↔ readString rest = some (string, []) := by
  rw [readString_eq_some_iff]
  constructor
  · intro encodes
    cases encodes with
    | intro spells => exact ⟨_, rfl, spells⟩
  · rintro ⟨written, rfl, spells⟩
    exact .intro spells

theorem Encodes.spellsWhole {encoded string : Text} (encodes : Encodes encoded string) :
    SpellsWhole encoded string := by
  cases encodes with
  | intro spells =>
      have noBlanks : ∀ letter ∈ ([] : Text), isBlank letter = true := by simp
      exact .intro noBlanks spells noBlanks

/-- An encoding stands on a line, and no carriage return ends it. -/
theorem Encodes.onLine {encoded string : Text} (encodes : Encodes encoded string) :
    '\n' ∉ encoded ∧ encoded.getLast? ≠ some '\r' := by
  cases encodes with
  | @intro written _ spells =>
      constructor
      · intro member
        simp only [List.mem_cons, List.mem_append, List.not_mem_nil, or_false] at member
        rcases member with first | inside | last
        · revert first
          decide
        · exact absurd (spells.notControl _ inside) (by decide)
        · revert last
          decide
      · rw [← List.cons_append, List.getLast?_concat]
        decide

theorem encodes_quoted (string : Text) : Encodes (quoted string) string :=
  .intro (spells_escaped string)

end RunLine.Json
