import RunLine.Program
import RunLine.Proofs.Pipeline.Commands
import RunLine.Proofs.Settings.Layers

/-!
# What the class report tells

The report on a command name and the rewriting of a line both ask a classifier that is made from the
configuration.  So the report foretells what becomes of every command with that name for its head:
the launcher is put before it, or it is left alone, without a warning or with the one that the
report quotes.
-/

namespace RunLine

namespace Sandbox

/-! ## Commands of a line -/

/-- A command of a line without double quotes, with the commands beside it and its head. -/
structure CommandIn (line : Text) (earlier : List Text) (command : Text) (later : List Text)
    (head : Text) : Prop where
  quoteless : '"' ∉ line
  cut : line.splitOn '|' = earlier ++ command :: later
  headed : head? command = some head

/-- A name without blanks, bars and double quotes is the head of the line that it is. -/
theorem commandIn_name {name : Text} (proper : name ≠ []) (noBlank : ' ' ∉ name) (noBar : '|' ∉ name)
    (quoteless : '"' ∉ name) : CommandIn name [] name [] name := by
  refine ⟨quoteless, List.splitOn_eq_singleton noBar, ?_⟩
  rw [head?, List.splitOn_eq_singleton noBlank]
  simpa using proper

end Sandbox

/-! ## The report -/

theorem Outcome.printed_inj {one other : Text} : printed one = printed other ↔ one = other := by
  simp [printed]

section Reports

variable {name : Text} {answer : Except Unclassified BinaryClass}

/-- What is reported after the name. -/
def verdict : Except Unclassified BinaryClass → Text
  | .ok .sandboxed => Text.lit ": sandboxed\n"
  | .ok .host => Text.lit ": host\n"
  | .error error => Text.lit ": host (" ++ error.message ++ Text.lit ")\n"

theorem verdict_error (error : Unclassified) :
    verdict (.error error) = Text.lit ": host (" ++ error.message ++ Text.lit ")\n" := rfl

theorem classReport_append (name : Text) (answer : Except Unclassified BinaryClass) :
    classReport name answer ++ ['\n'] = name ++ verdict answer := by
  cases answer with
  | ok found =>
      have reported : classReport name (.ok found) = name ++ Text.lit ": " ++ found.name := rfl
      have ended : Text.lit ": " ++ (found.name ++ ['\n']) = verdict (.ok found) := by
        cases found <;> decide +kernel
      rw [reported, List.append_assoc, List.append_assoc, ended]
  | error error =>
      have reported : classReport name (.error error) =
          name ++ Text.lit ": host (" ++ error.message ++ [')'] := rfl
      have ended : [')'] ++ ['\n'] = Text.lit ")\n" := by decide +kernel
      rw [reported, verdict_error, List.append_assoc, ended, List.append_assoc, List.append_assoc,
        List.append_assoc]

theorem verdict_ok_inj {one other : BinaryClass} :
    verdict (.ok one) = verdict (.ok other) ↔ one = other := by
  cases one <;> cases other <;> decide +kernel

/-- No class is reported in the way of an error. -/
theorem verdict_ok_ne (found : BinaryClass) (reason : Text) :
    verdict (.ok found) ≠ Text.lit ": host (" ++ reason ++ Text.lit ")\n" := by
  intro same
  have front : (verdict (.ok found)).take 8 = Text.lit ": host (" := by
    rw [same, List.append_assoc]
    exact List.take_left' (by decide +kernel)
  cases found with
  | sandboxed => exact absurd front (by decide +kernel)
  | host => exact absurd front (by decide +kernel)

theorem verdict_eq_ok_iff {found : BinaryClass} :
    verdict answer = verdict (.ok found) ↔ answer = .ok found := by
  cases answer with
  | ok other => rw [verdict_ok_inj, Except.ok.injEq]
  | error error =>
      have differs : verdict (.error error) ≠ verdict (.ok found) :=
        (verdict_ok_ne found error.message).symm
      exact iff_of_false differs (by simp)

theorem verdict_eq_reason_iff {reason : Text} :
    verdict answer = Text.lit ": host (" ++ reason ++ Text.lit ")\n" ↔
      ∃ error, answer = .error error ∧ error.message = reason := by
  cases answer with
  | ok found => exact iff_of_false (verdict_ok_ne found reason) (by simp)
  | error error =>
      rw [verdict_error, List.append_left_inj, List.append_right_inj]
      constructor
      · intro same
        exact ⟨error, rfl, same⟩
      · rintro ⟨other, isOther, same⟩
        rw [Except.error.inj isOther, same]

end Reports

theorem Command.withSettings_of_load {host : Host} {overrides : Overrides} {settings : Settings}
    (loaded : overrides.load host = .ok settings) (use : Settings → Outcome) :
    withSettings host overrides use = use settings := by
  unfold withSettings
  rw [loaded]

/-- What is reported of a name, and that there is nothing else to it. -/
theorem Command.execute_classify {host : Host} {overrides : Overrides} {settings : Settings}
    (loaded : overrides.load host = .ok settings) (stdin : Bytes) (name : Text) :
    (execute host stdin (.classify [name] overrides)).1 =
      .printed (classReport name ((Sandbox.ofHost host settings).classifier name) ++ ['\n']) := by
  have executed : (execute host stdin (.classify [name] overrides)).1 =
      withSettings host overrides fun settings =>
        .printed (classReports (Sandbox.ofHost host settings).classifier [name]) := rfl
  rw [executed, withSettings_of_load loaded, classReports, lines, List.map_singleton,
    List.flatMap_singleton]

/-- The report on a name foretells what becomes of each command with that name for its head, in
every line without double quotes that is rewritten under the same configuration. -/
theorem classify_predicts_rewrite {host : Host} {overrides : Overrides} {settings : Settings}
    (loaded : overrides.load host = .ok settings) (stdin : Bytes) (name : Text) :
    (∀ lines json, (Command.execute host stdin (.rewrite lines json overrides)).1 =
      .ofTranscript (Command.transcript (.ofHost host settings) lines json stdin)) ∧
    (name ≠ [] → ' ' ∉ name → '|' ∉ name → '"' ∉ name → Sandbox.CommandIn name [] name [] name) ∧
    ∀ line earlier command later, Sandbox.CommandIn line earlier command later name →
      let sandbox := Sandbox.ofHost host settings
      let report := (Command.execute host stdin (.classify [name] overrides)).1
      sandbox.rewriteQuoted line =
          ['|'].intercalate (earlier.map sandbox.rewriteStage ++
            sandbox.rewriteStage command :: later.map sandbox.rewriteStage) ∧
        sandbox.warnings line =
          earlier.filterMap (sandbox.warning? line) ++ (sandbox.warning? line command).toList ++
            later.filterMap (sandbox.warning? line) ∧
        (report = .printed (name ++ Text.lit ": sandboxed\n") ↔ sandbox.Launched command name) ∧
        (report = .printed (name ++ Text.lit ": host\n") ↔
          sandbox.rewriteStage command = command ∧ sandbox.warning? line command = none) ∧
        ∀ reason, report = .printed (name ++ Text.lit ": host (" ++ reason ++ Text.lit ")\n") ↔
          sandbox.rewriteStage command = command ∧
            ∃ error, sandbox.warning? line command = some ⟨name, line, error⟩ ∧
              error.message = reason := by
  refine ⟨?_, Sandbox.commandIn_name, ?_⟩
  · intro lines json
    have executed : (Command.execute host stdin (.rewrite lines json overrides)).1 =
        Command.withSettings host overrides fun settings =>
          .ofTranscript (Command.transcript (.ofHost host settings) lines json stdin) := rfl
    rw [executed, Command.withSettings_of_load loaded]
  · intro line earlier command later isCommand sandbox report
    have headed := isCommand.headed
    have reported : ∀ text, report = .printed (name ++ text) ↔
        verdict (sandbox.classifier name) = text := by
      intro text
      rw [← List.append_right_inj name, ← classReport_append, ← Outcome.printed_inj,
        ← Command.execute_classify loaded stdin name]
    have onClass : ∀ found, report = .printed (name ++ verdict (.ok found)) ↔
        sandbox.classifier name = .ok found := by
      intro found
      rw [reported, verdict_eq_ok_iff]
    refine ⟨?_, ?_, ?_, ?_, ?_⟩
    · rw [Sandbox.rewriteQuoted_of_quoteless sandbox isCommand.quoteless, Sandbox.rewriteStages,
        isCommand.cut, List.map_append, List.map_cons]
    · rw [Sandbox.warnings_of_quoteless sandbox isCommand.quoteless, isCommand.cut,
        List.filterMap_append, List.filterMap_cons]
      cases sandbox.warning? line command <;> simp
    · rw [Sandbox.launched_iff headed, Classifier.isSandboxed_eq_true_iff]
      exact onClass .sandboxed
    · rw [Sandbox.rewriteStage_eq_self_iff headed, Sandbox.warning?_eq_none_iff headed,
        Classifier.isSandboxed_eq_false_iff]
      refine (onClass .host).trans ?_
      cases sandbox.classifier name with
      | ok found => cases found <;> simp
      | error error => simp
    · intro reason
      rw [List.append_assoc, List.append_assoc, reported, ← List.append_assoc,
        verdict_eq_reason_iff, Sandbox.rewriteStage_eq_self_iff headed,
        Classifier.isSandboxed_eq_false_iff]
      simp only [Sandbox.warning?_eq_some_iff headed]
      cases sandbox.classifier name with
      | ok found => simp
      | error error => simp

/-- A head that is launched and one that is too short to be classified. -/
theorem classify_predicts_rewrite_sample :
    Overrides.none.load Host.sample = .ok Settings.sample ∧
      Sandbox.CommandIn (Text.lit "cut |  app .lit-sandbox.yml") [Text.lit "cut "]
        (Text.lit "  app .lit-sandbox.yml") [] (Text.lit "app") ∧
      (Sandbox.ofHost Host.sample Settings.sample).Launched (Text.lit "  app .lit-sandbox.yml")
        (Text.lit "app") ∧
      (Sandbox.ofHost Host.sample Settings.sample).rewriteStage
          (Text.lit "  app .lit-sandbox.yml") = Text.lit "  run app @.lit-sandbox.yml" ∧
      Sandbox.CommandIn (Text.lit "cut |  app .lit-sandbox.yml") [] (Text.lit "cut ")
        [Text.lit "  app .lit-sandbox.yml"] (Text.lit "cut") ∧
      (Command.execute Host.sample [] (.classify [Text.lit "cut"] .none)).1 =
        .printed (Text.lit "cut" ++ Text.lit ": host (" ++
          Text.lit "/work/cut is shorter than an ELF ident (8 bytes)" ++ Text.lit ")\n") := by
  have loaded : Overrides.none.load Host.sample = .ok Settings.sample := by decide +kernel
  have app : Sandbox.CommandIn (Text.lit "cut |  app .lit-sandbox.yml") [Text.lit "cut "]
      (Text.lit "  app .lit-sandbox.yml") [] (Text.lit "app") :=
    ⟨by decide +kernel, by decide +kernel, by decide +kernel⟩
  have cut : Sandbox.CommandIn (Text.lit "cut |  app .lit-sandbox.yml") [] (Text.lit "cut ")
      [Text.lit "  app .lit-sandbox.yml"] (Text.lit "cut") :=
    ⟨by decide +kernel, by decide +kernel, by decide +kernel⟩
  have onApp := (classify_predicts_rewrite loaded [] (Text.lit "app")).2.2 _ _ _ _ app
  have onCut := (classify_predicts_rewrite loaded [] (Text.lit "cut")).2.2 _ _ _ _ cut
  refine ⟨loaded, app, onApp.2.2.1.mp (by decide +kernel), by decide +kernel, cut, ?_⟩
  apply (onCut.2.2.2.2 _).mpr
  exact ⟨by decide +kernel, .shortHeader (Path.lit "/work/cut"), by decide +kernel,
    by decide +kernel⟩

end RunLine
