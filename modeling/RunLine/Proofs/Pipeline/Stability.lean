import RunLine.Proofs.Pipeline.Commands
import RunLine.Proofs.Pipeline.Heads
import RunLine.Proofs.Pipeline.NullDevice

/-!
# Rewriting twice

A line without double quotes whose heads are all host tools, and in which no null device is left, is
not changed by rewriting.  A rewritten line is such a line as soon as its new heads are host tools:
these are the first word of the launcher and the heads that were host tools before, after the null
device was renamed in them.
-/

namespace RunLine

/-- Conventions whose texts can be read again in a rewritten line.  They bring in no double quotes
and no bars, the launcher has a word, and renaming the null device moves no boundary of a token and
is done after one pass. -/
structure Conventions.Rereadable (conventions : Conventions) : Prop where
  quoteless : '"' ∉ conventions.launcher ∧ '"' ∉ conventions.pathMarker ∧
    '"' ∉ conventions.nullReplacement
  barless : '|' ∉ conventions.launcher ∧ '|' ∉ conventions.pathMarker ∧
    '|' ∉ conventions.nullReplacement
  launches : ∃ letter ∈ conventions.launcher, letter ≠ ' '
  null : conventions.nullDevice = [] ∨
    ' ' ∉ conventions.nullDevice ∧ '|' ∉ conventions.nullDevice ∧
      ' ' ∉ conventions.nullReplacement ∧ conventions.NamesApart

namespace Conventions.Rereadable

open Sandbox

variable {conventions : Conventions} {text : Text}

/-! ## Tokens of a line in which the null device was renamed -/

theorem blank_not_mem_nullDevice (rereadable : conventions.Rereadable) :
    ' ' ∉ conventions.nullDevice := by
  rcases rereadable.null with unset | ⟨noBlank, -⟩
  · simp [unset]
  · exact noBlank

theorem bar_not_mem_nullDevice (rereadable : conventions.Rereadable) :
    '|' ∉ conventions.nullDevice := by
  rcases rereadable.null with unset | ⟨-, noBar, -⟩
  · simp [unset]
  · exact noBar

theorem blank_not_mem_renameNull (rereadable : conventions.Rereadable) (absent : ' ' ∉ text) :
    ' ' ∉ renameNull conventions text := by
  rcases rereadable.null with unset | ⟨-, -, noBlank, -⟩
  · rwa [renameNull_of_empty unset]
  · intro member
    rcases mem_renameNull member with inName | inText
    · exact noBlank inName
    · exact absent inText

theorem bar_not_mem_renameNull (rereadable : conventions.Rereadable) (absent : '|' ∉ text) :
    '|' ∉ renameNull conventions text := by
  intro member
  rcases mem_renameNull member with inName | inText
  · exact rereadable.barless.2.2 inName
  · exact absent inText

theorem renameNull_eq_nil_iff (rereadable : conventions.Rereadable) :
    renameNull conventions text = [] ↔ text = [] := by
  rcases rereadable.null with unset | ⟨-, -, -, apart⟩
  · rw [renameNull_of_empty unset]
  · rw [renameNull_eq_replace apart.nullDevice_ne_nil]
    exact Text.replace_eq_nil_iff apart.nullDevice_ne_nil apart.nullReplacement_ne_nil

theorem renameNull_renameNull (rereadable : conventions.Rereadable) (text : Text) :
    renameNull conventions (renameNull conventions text) = renameNull conventions text := by
  rcases rereadable.null with unset | ⟨-, -, -, apart⟩
  · rw [renameNull_of_empty unset, renameNull_of_empty unset]
  · exact Sandbox.renameNull_renameNull apart text

/-- Renaming renames in each token. -/
theorem splitOn_blank_renameNull (rereadable : conventions.Rereadable) (text : Text) :
    (renameNull conventions text).splitOn ' ' = (text.splitOn ' ').map (renameNull conventions) :=
  Text.splitOn_of_parted (renameNull_append_cons conventions rereadable.blank_not_mem_nullDevice)
    (fun _ absent => rereadable.blank_not_mem_renameNull absent) text

/-- Renaming renames in each command. -/
theorem splitOn_bar_renameNull (rereadable : conventions.Rereadable) (text : Text) :
    (renameNull conventions text).splitOn '|' = (text.splitOn '|').map (renameNull conventions) :=
  Text.splitOn_of_parted (renameNull_append_cons conventions rereadable.bar_not_mem_nullDevice)
    (fun _ absent => rereadable.bar_not_mem_renameNull absent) text

/-- Renaming keeps empty tokens empty, so it renames in the head. -/
theorem head?_renameNull (rereadable : conventions.Rereadable) (command : Text) :
    head? (renameNull conventions command) = (head? command).map (renameNull conventions) := by
  have asEmpty : ((fun token : Text => !token.isEmpty) ∘ renameNull conventions) =
      fun token => !token.isEmpty := by
    funext token
    rw [Function.comp_apply, Bool.eq_iff_iff]
    simp [rereadable.renameNull_eq_nil_iff]
  rw [head?, rereadable.splitOn_blank_renameNull, List.find?_map, asEmpty]
  rfl

end Conventions.Rereadable

namespace Sandbox

variable {sandbox : Sandbox} {script line command head : Text}

/-! ## Lines that are not changed -/

theorem heads_of_quoteless (quoteless : '"' ∉ line) :
    heads line = (line.splitOn '|').filterMap head? := by
  rw [heads, Quote.shield_of_quoteless quoteless]

/-- A line without double quotes and sandboxed heads, in which the null device has its name, is not
changed. -/
theorem rewrite_eq_self (quoteless : '"' ∉ line)
    (hosts : ∀ head ∈ heads line, sandbox.classifier.isSandboxed head = false)
    (renamed : renameNull sandbox.conventions line = line) : sandbox.rewrite line = line := by
  rw [heads_of_quoteless quoteless] at hosts
  have commands : (line.splitOn '|').map sandbox.rewriteStage = line.splitOn '|' := by
    conv_rhs => rw [← List.map_id (line.splitOn '|')]
    apply List.map_congr_left
    intro command isCommand
    apply rewriteStage_of_hosts
    intro head headed
    exact hosts head (List.mem_filterMap.mpr ⟨command, isCommand, headed⟩)
  rw [rewrite, rewriteQuoted_of_quoteless sandbox quoteless, rewriteStages, commands,
    List.intercalate_splitOn, renamed]

/-! ## Heads of a rewritten line -/

/-- The head of a rewritten command is the first word of the launcher, or it was the head before. -/
theorem head?_rewriteStage (rereadable : sandbox.conventions.Rereadable)
    (headed : head? (sandbox.rewriteStage command) = some head) :
    head? sandbox.conventions.launcher = some head ∨
      head? command = some head ∧ sandbox.classifier.isSandboxed head = false := by
  cases before : head? command with
  | none =>
      rw [rewriteStage_of_hosts (by simp [before]), before] at headed
      simp at headed
  | some first =>
      cases isSandboxed : sandbox.classifier.isSandboxed first with
      | true =>
          rcases rereadable.launches with ⟨letter, member, proper⟩
          rcases exists_head member proper with ⟨word, launcher⟩
          rw [(launched_of_sandboxed before isSandboxed).head?_rewriteStage launcher] at headed
          exact Or.inl (launcher.trans headed)
      | false =>
          rw [rewriteStage_of_host before isSandboxed, before, Option.some.injEq] at headed
          subst headed
          exact Or.inr ⟨rfl, isSandboxed⟩

theorem quote_not_mem_rewrite (rereadable : sandbox.conventions.Rereadable)
    (quoteless : '"' ∉ script) : '"' ∉ sandbox.rewrite script := by
  intro member
  rcases mem_renameNull member with inName | inLine
  · exact rereadable.quoteless.2.2 inName
  · rw [rewriteQuoted_of_quoteless sandbox quoteless] at inLine
    rcases mem_rewriteStages inLine with inLauncher | inMarker | isBlank | isBar | inScript
    · exact rereadable.quoteless.1 inLauncher
    · exact rereadable.quoteless.2.1 inMarker
    · exact absurd isBlank (by decide)
    · exact absurd isBar (by decide)
    · exact quoteless inScript

/-- A rewritten line has a command for each command of the line. -/
theorem splitOn_rewrite (rereadable : sandbox.conventions.Rereadable) (quoteless : '"' ∉ script) :
    (sandbox.rewrite script).splitOn '|' =
      (script.splitOn '|').map fun command =>
        renameNull sandbox.conventions (sandbox.rewriteStage command) := by
  have noBars : ∀ stage ∈ (script.splitOn '|').map sandbox.rewriteStage, '|' ∉ stage := by
    intro stage isStage member
    rcases List.mem_map.mp isStage with ⟨command, isCommand, rfl⟩
    rcases mem_rewriteStage member with inLauncher | inMarker | isBlank | inCommand
    · exact rereadable.barless.1 inLauncher
    · exact rereadable.barless.2.1 inMarker
    · exact absurd isBlank (by decide)
    · exact Text.separator_not_mem_of_mem_splitOn isCommand inCommand
  rw [rewrite, rewriteQuoted_of_quoteless sandbox quoteless, rereadable.splitOn_bar_renameNull,
    rewriteStages, List.splitOn_intercalate '|' noBars (by simp [List.splitOn_ne_nil]),
    List.map_map]
  rfl

/-- The heads of a rewritten line, in terms of the line: the null device was renamed in them. -/
theorem mem_heads_rewrite (rereadable : sandbox.conventions.Rereadable) (quoteless : '"' ∉ script)
    (member : head ∈ heads (sandbox.rewrite script)) :
    (∃ word, head? sandbox.conventions.launcher = some word ∧
        head = renameNull sandbox.conventions word) ∨
      ∃ host ∈ heads script, sandbox.classifier.isSandboxed host = false ∧
        head = renameNull sandbox.conventions host := by
  rw [heads_of_quoteless (quote_not_mem_rewrite rereadable quoteless),
    splitOn_rewrite rereadable quoteless] at member
  rcases List.mem_filterMap.mp member with ⟨renamed, isCommand, headed⟩
  rcases List.mem_map.mp isCommand with ⟨command, inScript, rfl⟩
  rw [rereadable.head?_renameNull] at headed
  rcases Option.map_eq_some_iff.mp headed with ⟨first, isFirst, rfl⟩
  rcases head?_rewriteStage rereadable isFirst with launcher | ⟨before, onHost⟩
  · exact Or.inl ⟨first, launcher, rfl⟩
  · refine Or.inr ⟨first, ?_, onHost, rfl⟩
    rw [heads_of_quoteless quoteless]
    exact List.mem_filterMap.mpr ⟨command, inScript, before⟩

/-! ## The second time -/

/-- Rewriting a rewritten line changes nothing, for lines without double quotes and conventions that
can be read again, if no head that the line has got is sandboxed: neither the first word of the
launcher nor a head that was no sandboxed one, after the null device was renamed in it. -/
theorem rewrite_rewrite (sandbox : Sandbox) (rereadable : sandbox.conventions.Rereadable)
    (quoteless : '"' ∉ script)
    (launcherOnHost : ∀ word, head? sandbox.conventions.launcher = some word →
      sandbox.classifier (renameNull sandbox.conventions word) ≠ .ok .sandboxed)
    (headsOnHost : ∀ head ∈ heads script, sandbox.classifier head ≠ .ok .sandboxed →
      sandbox.classifier (renameNull sandbox.conventions head) ≠ .ok .sandboxed) :
    sandbox.rewrite (sandbox.rewrite script) = sandbox.rewrite script := by
  apply rewrite_eq_self
  · exact quote_not_mem_rewrite rereadable quoteless
  · intro head member
    rw [Classifier.isSandboxed_eq_false_iff]
    rcases mem_heads_rewrite rereadable quoteless member with
      ⟨word, launcher, rfl⟩ | ⟨host, inScript, onHost, rfl⟩
    · exact launcherOnHost word launcher
    · exact headsOnHost host inScript (Classifier.isSandboxed_eq_false_iff.mp onHost)
  · exact rereadable.renameNull_renameNull (sandbox.rewriteQuoted script)

/-- A sandbox whose launcher starts with a blank, has several words and holds the null device, and
whose marker makes two tokens out of one. -/
def sampleOfWords : Sandbox where
  conventions :=
    ⟨Text.lit " run/dev/null fast", Text.lit "at ", Text.lit "/dev/null", Text.lit "@null"⟩
  classifier head :=
    if head = Text.lit "app" then .ok .sandboxed
    else if head = Text.lit "what" then .error (.notFound head)
    else .ok .host
  namesFile token := token.contains '.'

/-- A launched command, a head that is renamed, one without a class, and a blank command. -/
theorem rewrite_rewrite_sample :
    sampleOfWords.conventions.Rereadable ∧
      sampleOfWords.rewrite (Text.lit " app  a.txt > b.txt|/dev/null|what c.txt| ") =
        Text.lit "  run@null fast app  at a.txt > b.txt|@null|what c.txt| " ∧
      sampleOfWords.rewrite
          (sampleOfWords.rewrite (Text.lit " app  a.txt > b.txt|/dev/null|what c.txt| ")) =
        sampleOfWords.rewrite (Text.lit " app  a.txt > b.txt|/dev/null|what c.txt| ") := by
  have rereadable : sampleOfWords.conventions.Rereadable := by
    refine ⟨by decide, by decide, ⟨'r', by decide, by decide⟩, Or.inr ⟨by decide, by decide,
      by decide, ⟨'/', rfl, by decide⟩, ⟨'@', rfl, by decide⟩⟩⟩
  have launcherOnHost : ∀ word, head? sampleOfWords.conventions.launcher = some word →
      sampleOfWords.classifier (renameNull sampleOfWords.conventions word) ≠ .ok .sandboxed := by
    intro word launcher
    have isWord : head? sampleOfWords.conventions.launcher = some (Text.lit "run/dev/null") := by
      decide +kernel
    rw [isWord, Option.some.injEq] at launcher
    subst launcher
    decide +kernel
  have twice := rewrite_rewrite sampleOfWords rereadable
    (show '"' ∉ Text.lit " app  a.txt > b.txt|/dev/null|what c.txt| " by decide +kernel)
    launcherOnHost (by decide +kernel)
  exact ⟨rereadable, by decide +kernel, twice⟩

end Sandbox

end RunLine
