import RunLine.Proofs.Command.Arrangement
import RunLine.Program

/-!
# The words of a command

Every consistent command has words that ask for it, whatever texts it is about: the options come
first, each with its value attached, and the operands come behind two dashes.  Words that are
accepted are an arrangement of what is given with a consistent command, so a mark for JSON is never
ignored.
-/

namespace RunLine.Command

/-! ## What is given with a command -/

def verb : Command → Verb
  | .rewrite _ _ _ => .rewrite
  | .shield _ => .shield
  | .restore _ _ => .restore
  | .classify _ _ => .classify
  | .init => .init
  | .completions _ => .completions

def given : Command → Given
  | .rewrite lines json overrides =>
      ⟨json, overrides.launcher, overrides.searchPath, none, lines⟩
  | .shield line => ⟨false, none, none, none, [line]⟩
  | .restore line quotes => ⟨false, none, none, some quotes, [line]⟩
  | .classify names overrides => ⟨false, overrides.launcher, overrides.searchPath, none, names⟩
  | .init => .nothing
  | .completions shell => ⟨false, none, none, none, [shell.name]⟩

/-- Whether the parts of a command go together: the mark for JSON, which is about the standard
input, comes with no lines, and there are names to classify. -/
def Consistent : Command → Prop
  | .rewrite lines json _ => json = true → lines = []
  | .classify names _ => names ≠ []
  | .shield _ | .restore _ _ | .init | .completions _ => True

instance : DecidablePred Consistent
  | .rewrite lines json _ => inferInstanceAs (Decidable (json = true → lines = []))
  | .classify names _ => inferInstanceAs (Decidable (names ≠ []))
  | .shield _ | .restore _ _ | .init | .completions _ => inferInstanceAs (Decidable True)

def ValueOption.words (option : ValueOption) (value : Option Text) : List Text :=
  value.toList.map option.attached

/-- The words for the options that are given: the mark for JSON, and options with their values. -/
def Given.optionWords (given : Given) : List Text :=
  (if given.json then [LongName.json.word] else []) ++
    ValueOption.launcher.words given.launcher ++ ValueOption.searchPath.words given.searchPath ++
      ValueOption.quotes.words given.quotes

/-- The words for what is given: the options, and the operands behind two dashes. -/
def Given.words (given : Given) : List Text :=
  given.optionWords ++ if given.operands = [] then [] else escapeWord :: given.operands

def words (command : Command) : List Text := command.verb.name :: command.given.words

variable {command : Command} {reading : Reading} {what : Given} {front line : List Text}

/-! ## The end of a reading -/

/-- What a command takes, setting by setting. -/
theorem Verb.takes_iff {kind : Verb} :
    kind.Takes what ↔
      ((what.json = true → .json ∈ kind.options) ∧
        (what.launcher.isSome → .value .launcher ∈ kind.options) ∧
        (what.searchPath.isSome → .value .searchPath ∈ kind.options) ∧
        (what.quotes.isSome → .value .quotes ∈ kind.options)) ∧
      (what.operands ≠ [] →
        ∃ operand, kind.operand? = some operand ∧
          (operand.arity = .one → what.operands.length = 1)) ∧
      (kind = .completions → ∀ word ∈ what.operands, (Shell.ofText? word).isSome) := by
  constructor
  · intro takes
    exact ⟨⟨takes.json, takes.value .launcher, takes.value .searchPath, takes.value .quotes⟩,
      takes.operands, takes.shells⟩
  · rintro ⟨⟨json, launcher, searchPath, quotes⟩, operands, shells⟩
    refine ⟨json, ?_, operands, shells⟩
    rintro (_ | _ | _)
    exacts [launcher, searchPath, quotes]

theorem takes_given (command : Command) : command.verb.Takes command.given := by
  rw [Verb.takes_iff]
  cases command with
  | rewrite | classify => simp [verb, given, Verb.options, Verb.operand?]
  | shield | restore => simp [verb, given, Verb.options, Verb.operand?]
  | init => simp [verb, given, Given.nothing]
  | completions shell =>
      have found : Shell.ofText? shell.name = some shell := Shell.ofText?_eq_some_iff.mpr rfl
      simp [verb, given, Verb.operand?, found]

theorem finish_given (consistent : command.Consistent) (isVerb : reading.verb = command.verb)
    (settled : reading.settle = .ok command.given) : reading.finish = .ok command := by
  rw [Reading.finish, isVerb, settled]
  cases command with
  | rewrite lines json overrides =>
      have noConflict : ¬ (json && !lines.isEmpty) = true := by
        simpa [Consistent] using consistent
      exact if_neg noConflict
  | classify names overrides =>
      have something : ¬ names.isEmpty = true := by simpa [Consistent] using consistent
      exact if_neg something
  | shield line => rfl
  | restore line quotes => rfl
  | init => rfl
  | completions shell => cases shell <;> rfl

/-- A command without options is given operands only. -/
theorem Verb.Takes.eq_of_no_options {kind : Verb} (takes : kind.Takes what)
    (bare : kind.options = []) : what = { Given.nothing with operands := what.operands } := by
  obtain ⟨json, launcher, searchPath, quotes, operands⟩ := what
  simpa [Verb.takes_iff, bare, Given.nothing] using (Verb.takes_iff.mp takes).1

/-- An operand that may be given once is the only one. -/
theorem Verb.Takes.rest_eq_nil {kind : Verb} {operand : Operand} {first : Text} {rest : List Text}
    (takes : kind.Takes what) (isOperand : kind.operand? = some operand)
    (isOne : operand.arity = .one) (shown : what.operands = first :: rest) : rest = [] := by
  simpa [isOperand, isOne, shown] using takes.operands

/-- A command that a reading ends with is given all that was read, and nothing else. -/
theorem given_of_finish (finished : reading.finish = .ok command)
    (settled : reading.settle = .ok what) (takes : reading.verb.Takes what) :
    command.verb = reading.verb ∧ command.given = what ∧ command.Consistent := by
  rw [Reading.finish, settled] at finished
  generalize reading.verb = kind at *
  simp only [bind, Except.bind] at finished
  cases kind with
  | rewrite =>
      obtain ⟨json, launcher, searchPath, quotes, operands⟩ := what
      obtain rfl : quotes = none := by
        simpa [Verb.takes_iff, Verb.options, Verb.operand?] using takes
      simp only at finished
      split at finished
      · cases finished
      · rename_i noConflict
        cases finished
        exact ⟨rfl, rfl, by simpa [Consistent] using noConflict⟩
  | classify =>
      obtain ⟨json, launcher, searchPath, quotes, operands⟩ := what
      obtain ⟨rfl, rfl⟩ : json = false ∧ quotes = none := by
        simpa [Verb.takes_iff, Verb.options, Verb.operand?] using takes
      simp only at finished
      split at finished
      · cases finished
      · rename_i something
        cases finished
        exact ⟨rfl, rfl, by simpa [Consistent] using something⟩
  | shield =>
      cases shown : what.operands with
      | nil =>
          rw [shown] at finished
          cases finished
      | cons line rest =>
          rw [shown] at finished
          cases finished
          rw [takes.eq_of_no_options rfl, shown, takes.rest_eq_nil rfl rfl shown]
          exact ⟨rfl, rfl, trivial⟩
  | restore =>
      obtain ⟨json, launcher, searchPath, quotes, operands⟩ := what
      cases operands with
      | nil => cases finished
      | cons line rest =>
          cases quotes with
          | none => cases finished
          | some quotes =>
              cases finished
              obtain rfl : rest = [] := takes.rest_eq_nil rfl rfl rfl
              obtain ⟨rfl, rfl, rfl⟩ : json = false ∧ launcher = none ∧ searchPath = none := by
                simpa [Verb.takes_iff, Verb.options, Verb.operand?] using takes
              exact ⟨rfl, rfl, trivial⟩
  | init =>
      cases finished
      have none : what.operands = [] := by
        simpa [Verb.operand?] using takes.operands
      rw [takes.eq_of_no_options rfl, none]
      exact ⟨rfl, rfl, trivial⟩
  | completions =>
      cases shown : what.operands with
      | nil =>
          rw [shown] at finished
          cases finished
      | cons word rest =>
          have valid := takes.shells rfl word (by rw [shown]; exact List.mem_cons_self)
          obtain ⟨shell, isShell⟩ := Option.isSome_iff_exists.mp valid
          simp only [shown, List.head?_cons, Option.bind_some, isShell] at finished
          cases finished
          rw [takes.eq_of_no_options rfl, shown, takes.rest_eq_nil rfl rfl shown,
            Shell.ofText?_eq_some_iff.mp isShell]
          exact ⟨rfl, rfl, trivial⟩

theorem parse_ne_ok {word : Text} (unknown : Verb.ofText? word = none) (rest : List Text) :
    parse (word :: rest) ≠ .ok command := by
  unfold parse
  simp only [unknown]
  split
  · exact nofun
  · split
    · exact nofun
    · exact nofun
    · split
      · exact nofun
      · split <;> exact nofun
    · exact nofun

/-- Words are accepted if they are the name of a command and words that are read to its end. -/
theorem parse_eq_ok_iff_read :
    parse line = .ok command ↔
      ∃ (kind : Verb) (rest : List Text) (reading : Reading), line = kind.name :: rest ∧
        kind.read rest = .ok reading ∧ reading.finish = .ok command := by
  cases line with
  | nil => exact iff_of_false nofun (by simp)
  | cons word rest =>
      cases found : Verb.ofText? word with
      | none =>
          refine iff_of_false (parse_ne_ok found rest) ?_
          rintro ⟨kind, _, _, same, -⟩
          cases same
          rw [Verb.ofText?_eq_some_iff.mpr rfl] at found
          cases found
      | some kind =>
          unfold parse
          simp only [found, bind_eq_ok_iff]
          rw [Verb.ofText?_eq_some_iff] at found
          constructor
          · rintro ⟨reading, isRead, finished⟩
            exact ⟨kind, rest, reading, by rw [found], isRead, finished⟩
          · rintro ⟨other, _, reading, same, isRead, finished⟩
            cases same
            rw [← Verb.ofText?_eq_some_iff, Verb.ofText?_eq_some_iff.mpr rfl] at found
            cases found
            exact ⟨reading, isRead, finished⟩

/-- Words are accepted if they are a consistent command and an arrangement of what is given with
it. -/
theorem parse_eq_ok_iff :
    parse line = .ok command ↔
      command.Consistent ∧ ∃ escaped rest, line = command.verb.name :: rest ∧
        Arranged escaped rest command.given := by
  rw [parse_eq_ok_iff_read]
  constructor
  · rintro ⟨kind, rest, reading, rfl, isRead, finished⟩
    obtain ⟨rfl, explained⟩ := Reading.explained_of_read isRead
    obtain ⟨what, settled, -⟩ := bind_eq_ok_iff.mp finished
    obtain ⟨arranged, takes⟩ := explained.settled what settled
    obtain ⟨isVerb, rfl, consistent⟩ := given_of_finish finished settled takes
    exact ⟨consistent, _, rest, by rw [isVerb], arranged⟩
  · rintro ⟨consistent, escaped, rest, rfl, arranged⟩
    obtain ⟨reading, isRead, isVerb, -, settled⟩ :=
      Reading.exists_reading arranged (takes_given command)
    exact ⟨_, rest, reading, rfl, isRead, finish_given consistent isVerb settled⟩

/-! ## Words of commands -/

theorem Arranged.value (arranged : Arranged false front what) (option : ValueOption)
    (fresh : what.value? option = none) (value : Option Text) :
    Arranged false (front ++ option.words value) (value.elim what (what.withValue option)) := by
  cases value with
  | none => exact (List.append_nil front).symm ▸ arranged
  | some value => exact arranged.attached fresh value

theorem Arranged.operands (arranged : Arranged true front what) (operands : List Text) :
    Arranged true (front ++ operands) { what with operands := what.operands ++ operands } := by
  induction operands generalizing front what with
  | nil => simpa using arranged
  | cons word operands ih =>
      have one : Arranged true (front ++ [word]) (what.addOperand word) :=
        arranged.operand (.inl rfl)
      simpa [Given.addOperand] using ih one

theorem arranged_optionWords (what : Given) :
    Arranged false what.optionWords { what with operands := [] } := by
  obtain ⟨json, launcher, searchPath, quotes, operands⟩ := what
  have switched : Arranged false (if json then [LongName.json.word] else [])
      { Given.nothing with json } := by
    cases json with
    | false => exact .nothing
    | true => exact Arranged.nothing.json rfl
  have launched := switched.value .launcher rfl launcher
  have searched := launched.value .searchPath (by cases launcher <;> rfl) searchPath
  have quoted := searched.value .quotes (by cases launcher <;> cases searchPath <;> rfl) quotes
  cases launcher <;> cases searchPath <;> cases quotes <;> exact quoted

/-- The words for what is given do give it. -/
theorem arranged_words (what : Given) : ∃ escaped, Arranged escaped what.words what := by
  have options := arranged_optionWords what
  rw [Given.words]
  split
  · rename_i nothing
    have same : { what with operands := [] } = what := by rw [← nothing]
    rw [same] at options
    exact ⟨false, by rwa [List.append_nil]⟩
  · have ended := options.escape.operands what.operands
    rw [List.append_assoc] at ended
    exact ⟨true, ended⟩

/-- Every consistent command is what its words ask for.  Words are accepted exactly if they are an
arrangement of what is given with a consistent command, so one that has the mark for JSON reads the
standard input as JSON. -/
theorem accepted_words :
    (∀ command : Command, command.Consistent → parse command.words = .ok command) ∧
      (∀ line command, parse line = .ok command ↔
        command.Consistent ∧ ∃ escaped rest, line = command.verb.name :: rest ∧
          Arranged escaped rest command.given) ∧
      ∀ line lines overrides, parse line = .ok (.rewrite lines true overrides) →
        ∀ sandbox stdin,
          transcript sandbox lines true stdin = Transcript.ofInput sandbox .json stdin := by
  refine ⟨?_, fun _ _ => parse_eq_ok_iff, ?_⟩
  · intro command consistent
    obtain ⟨escaped, arranged⟩ := arranged_words command.given
    exact parse_eq_ok_iff.mpr ⟨consistent, escaped, _, rfl, arranged⟩
  · intro line lines overrides accepted sandbox stdin
    have consistent := (parse_eq_ok_iff.mp accepted).1
    rw [transcript, consistent rfl]
    rfl

/-- A command about texts that look like options, like commands and like the end of the options. -/
def disguised : Command :=
  .rewrite [[], Text.lit "--json", Text.lit "--", Text.lit "shield", Text.lit "-a=b"] false
    ⟨some (Text.lit "--launcher=x"), some []⟩

/-- It has words, options may stand among operands, and the mark for JSON is heeded. -/
theorem accepted_words_disguised :
    disguised.words = [Text.lit "rewrite", Text.lit "--launcher=--launcher=x",
        Text.lit "--search-path=", Text.lit "--", [], Text.lit "--json", Text.lit "--",
        Text.lit "shield", Text.lit "-a=b"] ∧
      disguised.Consistent ∧ parse disguised.words = .ok disguised ∧
      Consistent (.classify [Text.lit "a", Text.lit "-", Text.lit "-b"]
        ⟨some (Text.lit "x"), none⟩) ∧
      ∀ sandbox stdin,
        transcript sandbox [] true stdin = Transcript.ofInput sandbox .json stdin := by
  obtain ⟨asked, accepted, heeded⟩ := accepted_words
  refine ⟨by decide +kernel, by decide, asked disguised (by decide), ?_, ?_⟩
  · have mixed := accepted [Text.lit "classify", Text.lit "a", Text.lit "--launcher", Text.lit "x",
      Text.lit "-", Text.lit "--", Text.lit "-b"]
      (.classify [Text.lit "a", Text.lit "-", Text.lit "-b"] ⟨some (Text.lit "x"), none⟩)
    exact (mixed.mp (by decide +kernel)).1
  · exact heeded [Text.lit "rewrite", Text.lit "--search-path", Text.lit "p", Text.lit "--json"] _
      ⟨none, some (Text.lit "p")⟩ (by decide +kernel)

end RunLine.Command
