import RunLine.Proofs.Pipeline.Commands
import RunLine.Proofs.Pipeline.Heads

/-!
# Rewriting and warning in one pass

The rewritten line and the warnings are two functions of a script.  They come of a single pass, in
which each token is looked at once: between two tokens it is known whether the head has come,
whether it was a sandboxed binary, and which argument came last.  Only a head that cannot be
classified is warned about, and then the command goes on like one of the host.
-/

namespace RunLine

/-- What is known of a command between two of its tokens. -/
inductive Progress where
  /-- No word has come yet. -/
  | headless
  /-- The head has come, and maybe arguments. -/
  | headed (isSandboxed : Bool) (previous : Option Text)
  deriving DecidableEq, Repr

/-- What comes of a token. -/
structure TokenStep where
  /-- What is known after the token. -/
  progress : Progress
  /-- What stands for the token in the outcome. -/
  piece : Text
  warning? : Option Warning
  deriving DecidableEq, Repr

/-- A classifier that answers host where it had no answer. -/
def Classifier.silenced (classifier : Classifier) : Classifier := fun head =>
  match classifier head with
  | .ok found => .ok found
  | .error _ => .ok .host

namespace Sandbox

variable {sandbox : Sandbox} {script command token : Text}

/-! ## The pass -/

def step (sandbox : Sandbox) (script : Text) (progress : Progress) (token : Text) : TokenStep :=
  if token.isEmpty then ⟨progress, token, none⟩
  else
    match progress with
    | .headless =>
        match sandbox.classifier token with
        | .ok .sandboxed =>
            ⟨.headed true none, sandbox.conventions.launcher ++ ' ' :: token, none⟩
        | .ok .host => ⟨.headed false none, token, none⟩
        | .error error => ⟨.headed false none, token, some ⟨token, script, error⟩⟩
    | .headed isSandboxed previous =>
        ⟨.headed isSandboxed (some token),
          if isSandboxed then sandbox.rewriteArgument previous token else token, none⟩

/-- The tokens of a command, one after the other: what stands for them, and the warnings. -/
def passTokens (sandbox : Sandbox) (script : Text) :
    Progress → List Text → List Text × List Warning
  | _, [] => ([], [])
  | progress, token :: tokens =>
      let step := sandbox.step script progress token
      let later := passTokens sandbox script step.progress tokens
      (step.piece :: later.1, step.warning?.toList ++ later.2)

/-- The commands of a script, one after the other. -/
def passCommands (sandbox : Sandbox) (script : Text) : List Text → List Text × List Warning
  | [] => ([], [])
  | command :: commands =>
      let first := sandbox.passTokens script .headless (command.splitOn ' ')
      let later := passCommands sandbox script commands
      ([' '].intercalate first.1 :: later.1, first.2 ++ later.2)

/-- A whole line: the rewritten line, and the warnings. -/
def pass (sandbox : Sandbox) (script : Text) : Text × List Warning :=
  let shielded := Quote.shield script
  let passed := sandbox.passCommands script (shielded.text.splitOn '|')
  (renameNull sandbox.conventions (Quote.restore shielded.quotes (['|'].intercalate passed.1)),
    passed.2)

/-! ## What comes of the tokens -/

/-- The warning about a head, if it cannot be classified. -/
def failure? (sandbox : Sandbox) (script head : Text) : Option Warning :=
  match sandbox.classifier head with
  | .ok _ => none
  | .error error => some ⟨head, script, error⟩

theorem warning?_eq_bind (sandbox : Sandbox) (script command : Text) :
    sandbox.warning? script command = (head? command).bind (sandbox.failure? script) := by
  rw [warning?]
  cases head? command with
  | none => rfl
  | some head => cases answer : sandbox.classifier head <;> simp [failure?, answer]

/-- Repeated blanks leave everything as it is. -/
theorem step_nil (progress : Progress) :
    sandbox.step script progress [] = ⟨progress, [], none⟩ := rfl

/-- The head decides over the command.  It alone may be warned about, and a head that cannot be
classified is no sandboxed binary. -/
theorem step_headless (proper : token ≠ []) :
    sandbox.step script .headless token =
      ⟨.headed (sandbox.classifier.isSandboxed token) none,
        if sandbox.classifier.isSandboxed token then
          sandbox.conventions.launcher ++ ' ' :: token
        else token,
        sandbox.failure? script token⟩ := by
  rw [step, if_neg (by simpa using proper)]
  cases answer : sandbox.classifier token with
  | error error => simp [Classifier.isSandboxed, failure?, answer]
  | ok found => cases found <;> simp [Classifier.isSandboxed, failure?, answer]

/-- An argument becomes what came last. -/
theorem step_headed (isSandboxed : Bool) (previous : Option Text) (proper : token ≠ []) :
    sandbox.step script (.headed isSandboxed previous) token =
      ⟨.headed isSandboxed (some token),
        if isSandboxed then sandbox.rewriteArgument previous token else token, none⟩ := by
  rw [step, if_neg (by simpa using proper)]

/-- After the head there are no warnings, and the arguments of a sandboxed binary are rewritten. -/
theorem passTokens_headed (isSandboxed : Bool) (previous : Option Text) (tokens : List Text) :
    sandbox.passTokens script (.headed isSandboxed previous) tokens =
      (if isSandboxed then sandbox.rewriteArguments previous tokens else tokens, []) := by
  induction tokens generalizing previous with
  | nil => cases isSandboxed <;> rfl
  | cons token tokens ih =>
      by_cases isBlank : token = []
      · subst isBlank
        cases isSandboxed <;> simp [passTokens, step_nil, rewriteArguments, ih]
      · cases isSandboxed <;>
          simp [passTokens, step_headed _ _ isBlank, rewriteArguments, isBlank, ih]

/-- The tokens of a command are rewritten, and its head may be warned about. -/
theorem passTokens_headless (tokens : List Text) :
    sandbox.passTokens script .headless tokens =
      (sandbox.rewriteTokens tokens,
        ((tokens.find? fun token => !token.isEmpty).bind (sandbox.failure? script)).toList) := by
  induction tokens with
  | nil => rfl
  | cons token tokens ih =>
      by_cases isBlank : token = []
      · subst isBlank
        simp [passTokens, step_nil, rewriteTokens, ih]
      · cases isSandboxed : sandbox.classifier.isSandboxed token <;>
          simp [passTokens, step_headless isBlank, passTokens_headed, rewriteTokens, isBlank,
            isSandboxed]

theorem passCommands_eq (commands : List Text) :
    sandbox.passCommands script commands =
      (commands.map sandbox.rewriteStage, commands.filterMap (sandbox.warning? script)) := by
  induction commands with
  | nil => rfl
  | cons command commands ih =>
      rw [passCommands, ih, passTokens_headless, List.map_cons, List.filterMap_cons, warning?_eq_bind,
        head?]
      cases ((command.splitOn ' ').find? fun token => !token.isEmpty).bind
        (sandbox.failure? script) <;> rfl

/-- The pass gives the rewritten line and the warnings. -/
theorem pass_eq (sandbox : Sandbox) (script : Text) :
    sandbox.pass script = (sandbox.rewrite script, sandbox.warnings script) := by
  simp only [pass, passCommands_eq]
  rfl

/-! ## Which warnings there are -/

/-- The warnings about commands, one after the other.  Each command whose first word cannot be
classified has one, which carries that word, the whole script and the cause; no other command has
any. -/
inductive Warned (sandbox : Sandbox) (script : Text) : List Text → List Warning → Prop where
  | nothing : Warned sandbox script [] []
  | failed {command head : Text} {error : Unclassified} {commands : List Text}
      {warnings : List Warning} (headed : HeadedBy (command.splitOn ' ') head)
      (failed : sandbox.classifier head = .error error)
      (later : Warned sandbox script commands warnings) :
      Warned sandbox script (command :: commands) (⟨head, script, error⟩ :: warnings)
  | silent {command : Text} {commands : List Text} {warnings : List Warning}
      (classified : ∀ head, HeadedBy (command.splitOn ' ') head →
        ∃ found, sandbox.classifier head = .ok found)
      (later : Warned sandbox script commands warnings) :
      Warned sandbox script (command :: commands) warnings

theorem warning?_of_classified
    (classified : ∀ head, HeadedBy (command.splitOn ' ') head →
      ∃ found, sandbox.classifier head = .ok found) :
    sandbox.warning? script command = none := by
  cases headed : head? command with
  | none => rw [warning?_eq_bind, headed, Option.bind_none]
  | some head =>
      rw [warning?_eq_none_iff headed]
      exact classified head (head?_eq_some_iff.mp headed)

theorem warned_filterMap (sandbox : Sandbox) (script : Text) (commands : List Text) :
    Warned sandbox script commands (commands.filterMap (sandbox.warning? script)) := by
  induction commands with
  | nil => exact .nothing
  | cons command commands ih =>
      cases headed : head? command with
      | none =>
          rw [List.filterMap_cons_none (by rw [warning?_eq_bind, headed, Option.bind_none])]
          refine .silent ?_ ih
          intro head isHead
          simp [head?_eq_some_iff.mpr isHead] at headed
      | some head =>
          cases answer : sandbox.classifier head with
          | error error =>
              rw [List.filterMap_cons_some ((warning?_eq_some_iff headed).mpr answer)]
              exact .failed (head?_eq_some_iff.mp headed) answer ih
          | ok found =>
              rw [List.filterMap_cons_none ((warning?_eq_none_iff headed).mpr ⟨found, answer⟩)]
              refine .silent ?_ ih
              intro other isHead
              rw [head?_eq_some_iff.mpr isHead, Option.some.injEq] at headed
              exact ⟨found, headed ▸ answer⟩

/-- There is exactly one list of warnings about commands. -/
theorem warned_iff {commands : List Text} {warnings : List Warning} :
    Warned sandbox script commands warnings ↔
      warnings = commands.filterMap (sandbox.warning? script) := by
  constructor
  · intro warned
    induction warned with
    | nothing => rfl
    | failed headed failed _ ih =>
        have isHead := head?_eq_some_iff.mpr headed
        rw [List.filterMap_cons_some ((warning?_eq_some_iff isHead).mpr failed), ih]
    | silent classified _ ih =>
        rw [List.filterMap_cons_none (warning?_of_classified classified), ih]
  · rintro rfl
    exact warned_filterMap sandbox script commands

/-- With failures taken for host tools from the start, the line is the same and nothing is warned
about. -/
theorem pass_silenced (sandbox : Sandbox) (script : Text) :
    ({ sandbox with classifier := sandbox.classifier.silenced } : Sandbox).pass script =
      (sandbox.rewrite script, []) := by
  have sameHeads : ∀ head, sandbox.classifier.silenced head = .ok .sandboxed ↔
      sandbox.classifier head = .ok .sandboxed := by
    intro head
    cases answer : sandbox.classifier head <;> simp [Classifier.silenced, answer]
  rw [pass_eq, Prod.mk.injEq]
  constructor
  · apply rewrite_congr (fun head _ => sameHeads head)
    intro command _ token _
    rfl
  · rw [warnings, List.filterMap_eq_nil_iff]
    intro command _
    apply warning?_of_classified
    intro head _
    cases answer : sandbox.classifier head <;> simp [Classifier.silenced, answer]

/-! ## Failures and the line -/

/-- A head that cannot be classified gives a warning and nothing else.  The warnings of a pass are
those about the commands of the shielded script, one for each such head.  With host answers in the
place of failures the line is the same.  It is the same for all classifiers that take the same heads
for sandboxed binaries, whatever they say of the others, and for all detectors that agree on the
words they are asked about. -/
theorem failures_only_warn (sandbox : Sandbox) (script : Text) :
    sandbox.pass script = (sandbox.rewrite script, sandbox.warnings script) ∧
      (∀ warnings, Warned sandbox script ((Quote.shield script).text.splitOn '|') warnings ↔
        warnings = sandbox.warnings script) ∧
      ({ sandbox with classifier := sandbox.classifier.silenced } : Sandbox).pass script =
        (sandbox.rewrite script, []) ∧
      ∀ classifier namesFile, AgreeOnSandboxed script classifier sandbox.classifier →
        sandbox.AgreeOnFiles script namesFile →
        ({ sandbox with classifier, namesFile } : Sandbox).rewrite script =
          sandbox.rewrite script := by
  refine ⟨pass_eq sandbox script, ?_, pass_silenced sandbox script, ?_⟩
  · intro warnings
    exact warned_iff
  · intro classifier namesFile same sameFiles
    exact rewrite_congr same sameFiles

/-- A sandbox with a binary and a host tool; no other head can be classified. -/
def sampleOfFailures : Sandbox where
  conventions := ⟨Text.lit "run", Text.lit "@", [], []⟩
  classifier head :=
    if head = Text.lit "app" then .ok .sandboxed
    else if head = Text.lit "grep" then .ok .host
    else .error (.notFound head)
  namesFile token := token.contains '.'

/-- The same binary, but it is the host tool that cannot be classified, and other tokens name
files. -/
def sampleOfOthers : Sandbox where
  conventions := sampleOfFailures.conventions
  classifier head :=
    if head = Text.lit "app" then .ok .sandboxed
    else if head = Text.lit "grep" then .error (.notFound head)
    else .ok .host
  namesFile token := token = Text.lit "a.txt" ∨ token = Text.lit "app"

/-- A quoted head and a bare one fail, and a command is blank.  The detectors differ on what is
redirected and on what follows a host tool. -/
def scriptOfFailures : Text := Text.lit "\"my tool\" a.txt | app a.txt > b.txt |  | grep app |what"

/-- The placeholder of the quoted head is in its warning. -/
theorem failures_only_warn_sample :
    sampleOfFailures.pass scriptOfFailures =
        (Text.lit "\"my tool\" a.txt | run app @a.txt > b.txt |  | grep app |what",
          [⟨Quote.placeholder (Text.lit "\"my tool\""), scriptOfFailures,
              .notFound (Quote.placeholder (Text.lit "\"my tool\""))⟩,
            ⟨Text.lit "what", scriptOfFailures, .notFound (Text.lit "what")⟩]) ∧
      sampleOfOthers.rewrite scriptOfFailures = sampleOfFailures.rewrite scriptOfFailures ∧
      sampleOfOthers.warnings scriptOfFailures =
        [⟨Text.lit "grep", scriptOfFailures, .notFound (Text.lit "grep")⟩] := by
  have onlyWarn := failures_only_warn sampleOfFailures scriptOfFailures
  refine ⟨?_, ?_, by decide +kernel⟩
  · rw [onlyWarn.1]
    decide +kernel
  · exact onlyWarn.2.2.2 sampleOfOthers.classifier sampleOfOthers.namesFile (by decide +kernel)
      (by decide +kernel)

end Sandbox

end RunLine
