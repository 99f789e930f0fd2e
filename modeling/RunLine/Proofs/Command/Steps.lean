import RunLine.Command.Parse
import Mathlib.Data.List.TakeWhile

/-!
# What one word does

A word ends the options, or it is a switch, an option with its value, an option that waits for one,
the value that an option waits for, or an operand.  Which of these it is depends on the word and on
what waits; whatever else waits is settled first.
-/

namespace RunLine

/-- In a table with distinct names a search by name finds the entry that bears it. -/
theorem find?_named_iff {α : Type} {table : List α} {name : α → Text} {word : Text} {entry : α}
    (apart : (table.map name).Nodup) :
    table.find? (fun entry => name entry == word) = some entry ↔
      entry ∈ table ∧ word = name entry := by
  constructor
  · intro found
    have named := List.find?_some found
    exact ⟨List.mem_of_find?_eq_some found, (beq_iff_eq.mp named).symm⟩
  · rintro ⟨member, rfl⟩
    induction table with
    | nil => cases member
    | cons first table ih =>
        rw [List.map_cons, List.nodup_cons] at apart
        rcases List.mem_cons.mp member with rfl | inside
        · exact List.find?_cons_of_pos (beq_self_eq_true (name entry))
        · have other : (name first == name entry) = false :=
            beq_eq_false_iff_ne.mpr fun same => apart.1 (same ▸ List.mem_map_of_mem inside)
          simp only [List.find?_cons, other, ih apart.2 inside]

/-- What is computed in two steps succeeds if both steps do. -/
theorem bind_eq_ok_iff {ε α β : Type} {first : Except ε α} {second : α → Except ε β} {result : β} :
    first >>= second = .ok result ↔ ∃ value, first = .ok value ∧ second value = .ok result := by
  cases first with
  | error error => simp [bind, Except.bind]
  | ok value => simp [bind, Except.bind]

theorem Shell.ofText?_eq_some_iff {word : Text} {shell : Shell} :
    Shell.ofText? word = some shell ↔ word = shell.name := by
  rw [Shell.ofText?, find?_named_iff (by decide)]
  exact and_iff_right (by cases shell <;> decide)

namespace Command

theorem Verb.ofText?_eq_some_iff {word : Text} {verb : Verb} :
    Verb.ofText? word = some verb ↔ word = verb.name := by
  rw [Verb.ofText?, find?_named_iff (by decide)]
  exact and_iff_right (by cases verb <;> decide)

theorem Verb.option?_eq_some_iff {verb : Verb} {word : Text} {option : LongName} :
    verb.option? word = some option ↔
      option ∈ verb.options ++ [LongName.help] ∧ word = option.name := by
  rw [Verb.option?, find?_named_iff (by cases verb <;> decide)]

theorem Verb.option?_name {verb : Verb} {option : LongName} (known : option ∈ verb.options) :
    verb.option? option.name = some option :=
  Verb.option?_eq_some_iff.mpr ⟨List.mem_append_left _ known, rfl⟩

theorem LongName.name_ne_nil (option : LongName) : option.name ≠ [] := by
  cases option with
  | value option => cases option <;> decide
  | json | help => decide

theorem LongName.equals_not_mem_name (option : LongName) : '=' ∉ option.name := by
  cases option with
  | value option => cases option <;> decide
  | json | help => decide

def LongName.word (option : LongName) : Text := '-' :: '-' :: option.name

/-- The word for an option together with a value. -/
def ValueOption.attached (option : ValueOption) (value : Text) : Text :=
  '-' :: '-' :: (option.name ++ '=' :: value)

/-- The word after which every word is an operand. -/
def escapeWord : Text := ['-', '-']

/-- A word that is no option: it does not start with a dash, unless the dash is all of it. -/
def IsPlain (word : Text) : Prop := word.head? = some '-' → word = ['-']

namespace Reading

variable {reading next : Reading} {given : Given} {pending : Pending} {word name : Text}
  {attached : Option Text} {option : ValueOption} {value : Text}

theorem splitLong_append (clean : '=' ∉ name) (attached : Option Text) :
    splitLong (name ++ attached.elim [] ('=' :: ·)) = (name, attached) := by
  have kept : ∀ letter ∈ name, decide (letter ≠ '=') = true := by
    intro letter member
    rw [decide_eq_true_eq]
    rintro rfl
    exact clean member
  rw [splitLong, List.dropWhile_append_of_pos kept, List.takeWhile_append_of_pos kept]
  cases attached with
  | none => simp
  | some value => simp

/-- A word is split at its first equals sign. -/
theorem splitLong_eq_iff :
    splitLong word = (name, attached) ↔
      '=' ∉ name ∧ word = name ++ attached.elim [] ('=' :: ·) := by
  have parted : ∃ name attached, '=' ∉ name ∧
      word = name ++ Option.elim attached [] ('=' :: ·) := by
    by_cases inside : '=' ∈ word
    · obtain ⟨front, back, rfl, clean⟩ := List.eq_append_cons_of_mem inside
      exact ⟨front, some back, clean, rfl⟩
    · exact ⟨word, none, inside, (List.append_nil word).symm⟩
  constructor
  · intro split
    obtain ⟨front, back, clean, rfl⟩ := parted
    rw [splitLong_append clean] at split
    cases split
    exact ⟨clean, rfl⟩
  · rintro ⟨clean, rfl⟩
    exact splitLong_append clean attached

theorem splitLong_name (option : LongName) : splitLong option.name = (option.name, none) :=
  splitLong_eq_iff.mpr ⟨option.equals_not_mem_name, (List.append_nil _).symm⟩

theorem splitLong_attached (option : LongName) (value : Text) :
    splitLong (option.name ++ '=' :: value) = (option.name, some value) :=
  splitLong_eq_iff.mpr ⟨option.equals_not_mem_name, rfl⟩

/-! ## Settling -/

theorem addValue_eq_ok_iff {before : Given} :
    before.addValue option value = .ok given ↔
      before.value? option = none ∧ given = before.withValue option value := by
  rw [Given.addValue]
  cases before.value? option with
  | none => simp [eq_comm]
  | some earlier => simp

theorem addJson_eq_ok_iff {before : Given} :
    before.addJson = .ok given ↔ before.json = false ∧ given = { before with json := true } := by
  rw [Given.addJson]
  cases before.json with
  | false => simp [eq_comm]
  | true => simp

@[simp] theorem operands_withValue (given : Given) (option : ValueOption) (value : Text) :
    (given.withValue option value).operands = given.operands := by
  cases option <;> rfl

/-- Settling makes an operand that waits one of those that are given. -/
theorem operandCount_of_settle (settled : reading.settle = .ok given) :
    reading.operandCount = given.operands.length := by
  obtain ⟨verb, before, pending, escaped⟩ := reading
  cases pending with
  | nothing =>
      cases settled
      rfl
  | option option value =>
      cases value with
      | none => cases settled
      | some value =>
          obtain ⟨-, rfl⟩ := addValue_eq_ok_iff.mp settled
          rw [operands_withValue]
          rfl
  | operand text =>
      simp only [settle] at settled
      split at settled
      · cases settled
      · cases settled
        simp [operandCount, Given.addOperand]

theorem await_eq_ok_iff :
    reading.await pending = .ok next ↔
      ∃ given, reading.settle = .ok given ∧ next = { reading with given, pending } := by
  simp only [await, bind_eq_ok_iff, Except.ok.injEq, @eq_comm _ next]

theorem readOperand_eq_ok_iff :
    reading.readOperand word = .ok next ↔
      reading.takesOperand = true ∧
        ∃ given, reading.settle = .ok given ∧
          next = { reading with given, pending := .operand word } := by
  rw [readOperand]
  split
  · rename_i room
    simp [await_eq_ok_iff, room]
  · rename_i full
    simp [full]

/-! ## Steps -/

/-- What one word can do to a reading. -/
inductive Advances : Reading → Text → Reading → Prop where
  /-- Two dashes alone end the options, whatever waits. -/
  | escape {reading : Reading} (unescaped : reading.escaped = false) :
      Advances reading escapeWord { reading with escaped := true }
  | json {reading : Reading} {given : Given} (unescaped : reading.escaped = false)
      (known : .json ∈ reading.verb.options) (settled : reading.settle = .ok given)
      (fresh : given.json = false) :
      Advances reading LongName.json.word
        { reading with given := { given with json := true }, pending := .nothing }
  | attached {reading : Reading} {given : Given} {option : ValueOption}
      (unescaped : reading.escaped = false) (known : .value option ∈ reading.verb.options)
      (settled : reading.settle = .ok given) (fresh : given.value? option = none) (value : Text) :
      Advances reading (option.attached value)
        { reading with given := given.withValue option value, pending := .nothing }
  /-- An option without a value waits for it. -/
  | option {reading : Reading} {given : Given} {option : ValueOption}
      (unescaped : reading.escaped = false) (known : .value option ∈ reading.verb.options)
      (settled : reading.settle = .ok given) :
      Advances reading (LongName.value option).word
        { reading with given, pending := .option option none }
  /-- The value that an option waits for; nothing is settled meanwhile. -/
  | value {reading : Reading} {option : ValueOption} {word : Text}
      (unescaped : reading.escaped = false) (plain : IsPlain word)
      (waits : reading.pending = .option option none) :
      Advances reading word { reading with pending := .option option (some word) }
  | operand {reading : Reading} {given : Given} {word : Text}
      (stands : reading.escaped = true ∨ IsPlain word) (room : reading.takesOperand = true)
      (settled : reading.settle = .ok given) :
      Advances reading word { reading with given, pending := .operand word }

/-- A word with two dashes is a switch, an option with its value, or an option that waits. -/
theorem Advances.of_readLong {long : Text} (unescaped : reading.escaped = false)
    (read : reading.readLong long = .ok next) : Advances reading ('-' :: '-' :: long) next := by
  rcases parted : splitLong long with ⟨name, attached⟩
  simp only [readLong, parted] at read
  rw [splitLong_eq_iff] at parted
  split at read
  · cases read
  · rename_i option value found
    obtain ⟨known, rfl⟩ := Verb.option?_eq_some_iff.mp found
    simp only [bind_eq_ok_iff, addValue_eq_ok_iff, Except.ok.injEq] at read
    obtain ⟨given, settled, _, ⟨fresh, rfl⟩, rfl⟩ := read
    rw [parted.2]
    exact .attached unescaped (by simpa using known) settled fresh value
  · rename_i option found
    obtain ⟨known, rfl⟩ := Verb.option?_eq_some_iff.mp found
    obtain ⟨given, settled, rfl⟩ := await_eq_ok_iff.mp read
    rw [parted.2, Option.elim_none, List.append_nil]
    exact .option unescaped (by simpa using known) settled
  · cases read
  · rename_i found
    obtain ⟨known, rfl⟩ := Verb.option?_eq_some_iff.mp found
    simp only [bind_eq_ok_iff, addJson_eq_ok_iff, Except.ok.injEq] at read
    obtain ⟨given, settled, _, ⟨fresh, rfl⟩, rfl⟩ := read
    rw [parted.2, Option.elim_none, List.append_nil]
    exact .json unescaped (by simpa using known) settled fresh
  · simp [bind_eq_ok_iff] at read

theorem not_readShort_ok {short : Text} : reading.readShort short ≠ .ok next := by
  rw [readShort]
  split
  · simp [bind_eq_ok_iff]
  · simp

theorem Advances.of_readWord (unescaped : reading.escaped = false) (plain : IsPlain word)
    (read : reading.readWord word = .ok next) : Advances reading word next := by
  rw [readWord] at read
  split at read
  · rename_i option waits
    cases read
    exact .value unescaped plain waits
  · obtain ⟨room, given, settled, rfl⟩ := readOperand_eq_ok_iff.mp read
    exact .operand (.inr plain) room settled

theorem step_of_long {long : Text} (unescaped : reading.escaped = false) (something : long ≠ []) :
    reading.step ('-' :: '-' :: long) = reading.readLong long := by
  cases long with
  | nil => exact absurd rfl something
  | cons letter long =>
      unfold step
      rw [unescaped]
      rfl

theorem step_of_plain (unescaped : reading.escaped = false) (plain : IsPlain word) :
    reading.step word = reading.readWord word := by
  unfold step
  rw [unescaped, if_neg Bool.false_ne_true]
  split
  · cases plain rfl
  · cases plain rfl
  · cases plain rfl
  · rfl

/-- A word that can be an operand is one, unless an option waits for its value. -/
theorem step_of_settle (stands : reading.escaped = true ∨ IsPlain word)
    (settled : reading.settle = .ok given) : reading.step word = reading.readOperand word := by
  cases escaped : reading.escaped with
  | true =>
      unfold step
      rw [escaped, if_pos rfl]
  | false =>
      have plain : IsPlain word := stands.resolve_left (by simp [escaped])
      rw [step_of_plain escaped plain, readWord]
      split
      · rename_i waits
        rw [settle, waits] at settled
        cases settled
      · rfl

/-- What a word does to a reading is what it can do. -/
theorem step_eq_ok_iff : reading.step word = .ok next ↔ Advances reading word next := by
  constructor
  · intro read
    unfold step at read
    split at read
    · rename_i escaped
      obtain ⟨room, given, settled, rfl⟩ := readOperand_eq_ok_iff.mp read
      exact .operand (.inl escaped) room settled
    · rename_i unescaped
      rw [Bool.not_eq_true] at unescaped
      split at read
      · cases read
        exact .escape unescaped
      · exact .of_readLong unescaped read
      · exact absurd read not_readShort_ok
      · rename_i noShort
        refine .of_readWord unescaped ?_ read
        intro dashed
        obtain ⟨short, rfl⟩ := List.head?_eq_some_iff.mp dashed
        cases short with
        | nil => rfl
        | cons letter short => exact absurd rfl (noShort letter short)
  · intro advances
    cases advances with
    | escape unescaped =>
        unfold step
        rw [unescaped]
        rfl
    | @json given unescaped known settled fresh =>
        rw [LongName.word, step_of_long unescaped (LongName.name_ne_nil _), readLong]
        simp only [splitLong_name, Verb.option?_name known, bind_eq_ok_iff, addJson_eq_ok_iff]
        exact ⟨given, settled, _, ⟨fresh, rfl⟩, rfl⟩
    | @attached given option unescaped known settled fresh value =>
        have something : option.name ++ '=' :: value ≠ [] := by simp
        rw [ValueOption.attached, step_of_long unescaped something, readLong]
        have named : option.name = (LongName.value option).name := rfl
        simp only [named, splitLong_attached, Verb.option?_name known, bind_eq_ok_iff,
          addValue_eq_ok_iff]
        exact ⟨given, settled, _, ⟨fresh, rfl⟩, rfl⟩
    | @option given option unescaped known settled =>
        rw [LongName.word, step_of_long unescaped (LongName.name_ne_nil _), readLong]
        simp only [splitLong_name, Verb.option?_name known]
        exact await_eq_ok_iff.mpr ⟨given, settled, rfl⟩
    | value unescaped plain waits =>
        rw [step_of_plain unescaped plain, readWord, waits]
    | @operand given _ stands room settled =>
        rw [step_of_settle stands settled]
        exact readOperand_eq_ok_iff.mpr ⟨room, given, settled, rfl⟩

end Reading

end Command

end RunLine
