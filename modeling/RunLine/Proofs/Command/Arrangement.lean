import Mathlib.Data.List.Induction
import RunLine.Proofs.Command.Steps

/-!
# Words that give something

What words after a command give is said without the reading of them: switches, options with values
and operands in any order, each option at most once, and behind two dashes operands only.  Reading
the words comes to what they give, provided the command takes it, and refuses all other words.
-/

namespace RunLine.Command

/-- Words and what they give; the mark tells whether two dashes alone are among them, behind which
every word is an operand. -/
inductive Arranged : Bool → List Text → Given → Prop where
  | nothing : Arranged false [] .nothing
  | json {words : List Text} {given : Given} (arranged : Arranged false words given)
      (fresh : given.json = false) :
      Arranged false (words ++ [LongName.json.word]) { given with json := true }
  | attached {words : List Text} {given : Given} {option : ValueOption}
      (arranged : Arranged false words given) (fresh : given.value? option = none) (value : Text) :
      Arranged false (words ++ [option.attached value]) (given.withValue option value)
  | separate {words : List Text} {given : Given} {option : ValueOption} {value : Text}
      (arranged : Arranged false words given) (fresh : given.value? option = none)
      (plain : IsPlain value) :
      Arranged false (words ++ [(LongName.value option).word, value])
        (given.withValue option value)
  | escape {words : List Text} {given : Given} (arranged : Arranged false words given) :
      Arranged true (words ++ [escapeWord]) given
  | operand {escaped : Bool} {words : List Text} {given : Given} {word : Text}
      (arranged : Arranged escaped words given) (stands : escaped = true ∨ IsPlain word) :
      Arranged escaped (words ++ [word]) (given.addOperand word)

/-! ## What a command takes -/

/-- Whether a command takes what is given with it. -/
structure Verb.Takes (verb : Verb) (given : Given) : Prop where
  json : given.json = true → .json ∈ verb.options
  value : ∀ option, (given.value? option).isSome → .value option ∈ verb.options
  operands : given.operands ≠ [] →
    ∃ operand, verb.operand? = some operand ∧ (operand.arity = .one → given.operands.length = 1)
  shells : verb = .completions → ∀ word ∈ given.operands, (Shell.ofText? word).isSome

variable {verb : Verb} {given : Given} {option : ValueOption} {value word : Text}

@[simp] theorem value?_withValue (given : Given) (option other : ValueOption) (value : Text) :
    (given.withValue option value).value? other =
      if other = option then some value else given.value? other := by
  cases option <;> cases other <;> rfl

@[simp] theorem json_withValue (given : Given) (option : ValueOption) (value : Text) :
    (given.withValue option value).json = given.json := by
  cases option <;> rfl

theorem Verb.takes_nothing (verb : Verb) : verb.Takes .nothing where
  json := nofun
  value option := by cases option <;> exact nofun
  operands := fun something => absurd rfl something
  shells := fun _ _ => nofun

theorem Verb.takes_json_iff (fresh : given.json = false) :
    verb.Takes { given with json := true } ↔ .json ∈ verb.options ∧ verb.Takes given := by
  constructor
  · intro takes
    exact ⟨takes.json rfl, ⟨by simp [fresh], takes.value, takes.operands, takes.shells⟩⟩
  · rintro ⟨known, takes⟩
    exact ⟨fun _ => known, takes.value, takes.operands, takes.shells⟩

theorem Verb.takes_withValue_iff (fresh : given.value? option = none) :
    verb.Takes (given.withValue option value) ↔
      .value option ∈ verb.options ∧ verb.Takes given := by
  constructor
  · intro takes
    refine ⟨takes.value option (by simp), by simpa using takes.json, ?_,
      by simpa using takes.operands, by simpa using takes.shells⟩
    intro other set
    have different : other ≠ option := by
      rintro rfl
      simp [fresh] at set
    exact takes.value other (by simpa [different] using set)
  · rintro ⟨known, takes⟩
    refine ⟨by simpa using takes.json, ?_, by simpa using takes.operands,
      by simpa using takes.shells⟩
    intro other set
    by_cases same : other = option
    · rwa [same]
    · exact takes.value other (by simpa [same] using set)

/-- Whether a command takes one more operand with what is given. -/
structure Verb.TakesAlso (verb : Verb) (given : Given) (word : Text) : Prop where
  room : ∃ operand, verb.operand? = some operand ∧ (operand.arity = .one → given.operands = [])
  shell : verb = .completions → (Shell.ofText? word).isSome

theorem Verb.takes_addOperand_iff :
    verb.Takes (given.addOperand word) ↔ verb.TakesAlso given word ∧ verb.Takes given := by
  have length : (given.addOperand word).operands.length = given.operands.length + 1 :=
    List.length_append
  constructor
  · intro takes
    obtain ⟨operand, isOperand, single⟩ := takes.operands (by simp [Given.addOperand])
    have alone : operand.arity = .one → given.operands = [] := by
      intro isOne
      have one := single isOne
      rw [length] at one
      exact List.length_eq_zero_iff.mp (by omega)
    have shells := fun isShell => List.forall_mem_append.mp (takes.shells isShell)
    have last := fun isShell => (shells isShell).2 word List.mem_cons_self
    refine ⟨⟨⟨operand, isOperand, alone⟩, last⟩, takes.json, takes.value, ?_,
      fun isShell => (shells isShell).1⟩
    intro something
    exact ⟨operand, isOperand, fun isOne => absurd (alone isOne) something⟩
  · rintro ⟨⟨⟨operand, isOperand, alone⟩, shell⟩, takes⟩
    refine ⟨takes.json, takes.value, fun _ => ⟨operand, isOperand, ?_⟩, ?_⟩
    · intro isOne
      rw [length, alone isOne]
      rfl
    · intro isShell
      exact List.forall_mem_append.mpr ⟨takes.shells isShell, by simpa using shell isShell⟩

/-! ## Reading what is arranged -/

def Verb.read (verb : Verb) (words : List Text) : Except Interruption Reading :=
  words.foldlM Reading.step (Reading.start verb)

namespace Reading

variable {reading next : Reading} {words : List Text} {escaped : Bool}

theorem read_snoc_iff :
    verb.read (words ++ [word]) = .ok next ↔
      ∃ reading, verb.read words = .ok reading ∧ Advances reading word next := by
  rw [Verb.read, List.foldlM_append, bind_eq_ok_iff]
  simp only [List.foldlM_cons, List.foldlM_nil, bind_pure, step_eq_ok_iff]
  rfl

theorem takesOperand_iff (settled : reading.settle = .ok given) :
    reading.takesOperand = true ↔
      ∃ operand, reading.verb.operand? = some operand ∧
        (operand.arity = .one → given.operands = []) := by
  rw [takesOperand, operandCount_of_settle settled]
  cases reading.verb.operand? with
  | none => simp
  | some operand =>
      rw [Bool.or_eq_true, bne_iff_ne, beq_iff_eq, List.length_eq_zero_iff, ← imp_iff_not_or]
      simp

theorem settle_operand_iff {result : Given} :
    settle { reading with given, pending := .operand word } = .ok result ↔
      (reading.verb = .completions → (Shell.ofText? word).isSome) ∧
        result = given.addOperand word := by
  have valid : (reading.verb = .completions → (Shell.ofText? word).isSome) ↔
      ¬ (reading.verb = .completions ∧ (Shell.ofText? word).isNone) := by
    rw [not_and, Option.isNone_iff_eq_none, Option.isSome_iff_ne_none]
  rw [valid]
  simp only [settle]
  split
  · rename_i invalid
    exact iff_of_false (by simp) fun both => both.1 invalid
  · rename_i noFault
    rw [Except.ok.injEq, and_iff_right noFault, eq_comm]

/-- What is known of a reading after some words: they give what it comes to when nothing waits any
more; and if an option waits for its value, the words before it give what there is. -/
structure Explained (words : List Text) (reading : Reading) : Prop where
  settled : ∀ given, reading.settle = .ok given →
    Arranged reading.escaped words given ∧ reading.verb.Takes given
  waiting : ∀ option, reading.escaped = false → reading.pending = .option option none →
    .value option ∈ reading.verb.options ∧
      ∃ front, words = front ++ [(LongName.value option).word] ∧
        Arranged false front reading.given ∧ reading.verb.Takes reading.given

theorem Advances.verb_eq (advances : Advances reading word next) : next.verb = reading.verb := by
  cases advances <;> rfl

theorem explained_start (verb : Verb) : Explained [] (start verb) where
  settled := by
    intro given settled
    cases settled
    exact ⟨.nothing, verb.takes_nothing⟩
  waiting := fun _ _ => nofun

theorem Explained.advance (explained : Explained words reading)
    (advances : Advances reading word next) : Explained (words ++ [word]) next := by
  cases advances with
  | escape unescaped =>
      refine ⟨?_, fun _ => nofun⟩
      intro given settled
      obtain ⟨arranged, takes⟩ := explained.settled given settled
      rw [unescaped] at arranged
      exact ⟨arranged.escape, takes⟩
  | @json given unescaped known settled fresh =>
      refine ⟨?_, fun _ _ => nofun⟩
      intro result isResult
      cases isResult
      obtain ⟨arranged, takes⟩ := explained.settled given settled
      rw [unescaped] at arranged ⊢
      exact ⟨arranged.json fresh, (Verb.takes_json_iff fresh).mpr ⟨known, takes⟩⟩
  | @attached given option unescaped known settled fresh value =>
      refine ⟨?_, fun _ _ => nofun⟩
      intro result isResult
      cases isResult
      obtain ⟨arranged, takes⟩ := explained.settled given settled
      rw [unescaped] at arranged ⊢
      exact ⟨arranged.attached fresh value, (Verb.takes_withValue_iff fresh).mpr ⟨known, takes⟩⟩
  | @option given option unescaped known settled =>
      refine ⟨fun _ => nofun, ?_⟩
      intro other _ waits
      cases waits
      obtain ⟨arranged, takes⟩ := explained.settled given settled
      rw [unescaped] at arranged
      exact ⟨known, words, rfl, arranged, takes⟩
  | @value option _ unescaped plain waits =>
      refine ⟨?_, fun _ _ => nofun⟩
      intro result isResult
      obtain ⟨fresh, rfl⟩ := addValue_eq_ok_iff.mp isResult
      obtain ⟨known, front, rfl, arranged, takes⟩ := explained.waiting option unescaped waits
      rw [unescaped, List.append_assoc]
      exact ⟨arranged.separate fresh plain, (Verb.takes_withValue_iff fresh).mpr ⟨known, takes⟩⟩
  | @operand given _ stands room settled =>
      refine ⟨?_, fun _ _ => nofun⟩
      intro result isResult
      obtain ⟨shell, rfl⟩ := settle_operand_iff.mp isResult
      obtain ⟨arranged, takes⟩ := explained.settled given settled
      have also : reading.verb.TakesAlso given word := ⟨(takesOperand_iff settled).mp room, shell⟩
      exact ⟨arranged.operand stands, Verb.takes_addOperand_iff.mpr ⟨also, takes⟩⟩

/-- Words that are read give what the reading comes to. -/
theorem explained_of_read (isRead : verb.read words = .ok reading) :
    reading.verb = verb ∧ Explained words reading := by
  induction words using List.reverseRecOn generalizing reading with
  | nil =>
      cases isRead
      exact ⟨rfl, explained_start verb⟩
  | append_singleton words word ih =>
      obtain ⟨before, readBefore, advances⟩ := read_snoc_iff.mp isRead
      obtain ⟨sameVerb, explained⟩ := ih readBefore
      exact ⟨advances.verb_eq.trans sameVerb, explained.advance advances⟩

/-- Words that give what a command takes are read. -/
theorem exists_reading (arranged : Arranged escaped words given) (takes : verb.Takes given) :
    ∃ reading, verb.read words = .ok reading ∧ reading.verb = verb ∧ reading.escaped = escaped ∧
      reading.settle = .ok given := by
  induction arranged with
  | nothing => exact ⟨start verb, rfl, rfl, rfl, rfl⟩
  | json arranged fresh ih =>
      obtain ⟨known, takes⟩ := (Verb.takes_json_iff fresh).mp takes
      obtain ⟨reading, isRead, rfl, unescaped, settled⟩ := ih takes
      exact ⟨_, read_snoc_iff.mpr ⟨reading, isRead, .json unescaped known settled fresh⟩, rfl,
        unescaped, rfl⟩
  | attached arranged fresh value ih =>
      obtain ⟨known, takes⟩ := (Verb.takes_withValue_iff fresh).mp takes
      obtain ⟨reading, isRead, rfl, unescaped, settled⟩ := ih takes
      exact ⟨_, read_snoc_iff.mpr ⟨reading, isRead, .attached unescaped known settled fresh value⟩,
        rfl, unescaped, rfl⟩
  | @separate words given option value arranged fresh plain ih =>
      obtain ⟨known, takes⟩ := (Verb.takes_withValue_iff fresh).mp takes
      obtain ⟨reading, isRead, rfl, unescaped, settled⟩ := ih takes
      have waits := read_snoc_iff.mpr ⟨reading, isRead, .option unescaped known settled⟩
      have isRead := read_snoc_iff.mpr ⟨_, waits, .value unescaped plain rfl⟩
      rw [List.append_assoc] at isRead
      exact ⟨_, isRead, rfl, unescaped, addValue_eq_ok_iff.mpr ⟨fresh, rfl⟩⟩
  | escape arranged ih =>
      obtain ⟨reading, isRead, rfl, unescaped, settled⟩ := ih takes
      exact ⟨_, read_snoc_iff.mpr ⟨reading, isRead, .escape unescaped⟩, rfl, rfl, settled⟩
  | operand arranged stands ih =>
      obtain ⟨⟨room, shell⟩, takes⟩ := Verb.takes_addOperand_iff.mp takes
      obtain ⟨reading, isRead, rfl, rfl, settled⟩ := ih takes
      have advances := Advances.operand stands ((takesOperand_iff settled).mpr room) settled
      exact ⟨_, read_snoc_iff.mpr ⟨reading, isRead, advances⟩, rfl, rfl,
        settle_operand_iff.mpr ⟨shell, rfl⟩⟩

end Reading

end RunLine.Command
