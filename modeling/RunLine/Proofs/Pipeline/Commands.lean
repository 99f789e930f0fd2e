import Mathlib.Data.List.Forall2
import RunLine.Proofs.Pipeline.Positions

/-!
# What becomes of a command

A command with a sandboxed head is launched: the launcher stands before the head, and some of the
arguments are marked.  Every other command is left alone.  Nothing is written but the letters of the
command, the launcher, the marker and blanks, and the first word that is written is the first word
of the launcher.
-/

namespace RunLine.Sandbox

variable {sandbox : Sandbox} {line command head : Text} {blanks arguments : List Text}

/-! ## The head of a text -/

/-- The first word of a text is the first word on the left of a blank, or else that on its right. -/
theorem head?_append_blank (left right : Text) :
    head? (left ++ ' ' :: right) = (head? left).or (head? right) := by
  rw [head?, List.splitOn_append_cons_self, List.find?_append]
  rfl

theorem head?_intercalate (tokens : List Text) :
    head? ([' '].intercalate tokens) = tokens.findSome? head? := by
  induction tokens with
  | nil => rfl
  | cons token tokens ih =>
      cases tokens with
      | nil => cases found : head? token <;> simp [found]
      | cons second tokens =>
          rw [List.intercalate_cons_cons, List.append_assoc, List.singleton_append,
            head?_append_blank, ih]
          cases found : head? token <;> simp [found]

/-- A text that is not blank has a first word. -/
theorem exists_head {text : Text} {letter : Char} (member : letter ∈ text) (proper : letter ≠ ' ') :
    ∃ word, head? text = some word := by
  cases found : head? text with
  | some word => exact ⟨word, rfl⟩
  | none =>
      rw [head?_eq, List.head?_eq_none_iff, words_eq_nil_iff_blank] at found
      have whole : [' '].intercalate (text.splitOn ' ') = text := List.intercalate_splitOn ' '
      rw [← whole] at member
      rcases Text.mem_intercalate member with isBlank | ⟨piece, isPiece, inPiece⟩
      · exact absurd (List.mem_singleton.mp isBlank) proper
      · simp [found piece isPiece] at inPiece

/-! ## The tokens of a command -/

/-- Tokens that are kept, some of them with the path marker before them. -/
def Marked (sandbox : Sandbox) (tokens outcomes : List Text) : Prop :=
  List.Forall₂
    (fun token outcome => outcome = token ∨ outcome = sandbox.conventions.pathMarker ++ token)
    tokens outcomes

theorem marked_rewriteArguments (previous : Option Text) (tokens : List Text) :
    Marked sandbox tokens (sandbox.rewriteArguments previous tokens) := by
  induction tokens generalizing previous with
  | nil => exact .nil
  | cons token rest ih =>
      rw [rewriteArguments]
      split
      · exact .cons (Or.inl rfl) (ih previous)
      · refine .cons ?_ (ih (some token))
        rw [rewriteArgument]
        split
        · exact Or.inr rfl
        · exact Or.inl rfl

theorem rewriteTokens_append_head (isHead : IsHead blanks head) (arguments : List Text) :
    sandbox.rewriteTokens (blanks ++ head :: arguments) =
      blanks ++ if sandbox.classifier.isSandboxed head then
        (sandbox.conventions.launcher ++ ' ' :: head) :: sandbox.rewriteArguments none arguments
      else head :: arguments := by
  induction blanks with
  | nil =>
      rw [List.nil_append, rewriteTokens, if_neg (by simpa using isHead.1)]
      rfl
  | cons blank blanks ih =>
      have tail := ih ⟨isHead.1, fun piece member => isHead.2 piece (List.mem_cons_of_mem _ member)⟩
      rw [isHead.2 blank List.mem_cons_self, List.cons_append, rewriteTokens, List.isEmpty_nil,
        if_pos rfl, tail]
      rfl

theorem rewriteTokens_of_blank {tokens : List Text} (blank : Blank tokens) :
    sandbox.rewriteTokens tokens = tokens := by
  induction tokens with
  | nil => rfl
  | cons token tokens ih =>
      rw [rewriteTokens, blank token List.mem_cons_self, List.isEmpty_nil, if_pos rfl,
        ih fun other member => blank other (List.mem_cons_of_mem _ member)]

/-- A command that is not blank, token by token. -/
theorem exists_tokens (headed : head? command = some head) :
    ∃ blanks arguments, command.splitOn ' ' = blanks ++ head :: arguments ∧ IsHead blanks head :=
  head?_eq_some_iff.mp headed

/-! ## Commands that are launched and commands that are left alone -/

/-- The launcher and a blank stand before the head of a command, and nothing else has changed but
that arguments may be marked. -/
def Launched (sandbox : Sandbox) (command head : Text) : Prop :=
  ∃ blanks arguments outcomes, command.splitOn ' ' = blanks ++ head :: arguments ∧
    IsHead blanks head ∧ Marked sandbox arguments outcomes ∧
    sandbox.rewriteStage command =
      [' '].intercalate (blanks ++ (sandbox.conventions.launcher ++ ' ' :: head) :: outcomes)

theorem launched_of_sandboxed (headed : head? command = some head)
    (sandboxed : sandbox.classifier.isSandboxed head = true) : Launched sandbox command head := by
  rcases exists_tokens headed with ⟨blanks, arguments, cut, isHead⟩
  refine ⟨blanks, arguments, sandbox.rewriteArguments none arguments, cut, isHead,
    marked_rewriteArguments none arguments, ?_⟩
  rw [rewriteStage, cut, rewriteTokens_append_head isHead, if_pos sandboxed]

/-- A command without a sandboxed head is left alone, be it blank or not. -/
theorem rewriteStage_of_hosts
    (hosts : ∀ head, head? command = some head → sandbox.classifier.isSandboxed head = false) :
    sandbox.rewriteStage command = command := by
  cases headed : head? command with
  | some head =>
      rcases exists_tokens headed with ⟨blanks, arguments, cut, isHead⟩
      rw [rewriteStage, cut, rewriteTokens_append_head isHead, hosts head headed,
        if_neg Bool.false_ne_true, ← cut]
      exact List.intercalate_splitOn ' '
  | none =>
      rw [head?_eq, List.head?_eq_none_iff] at headed
      rw [rewriteStage, rewriteTokens_of_blank (words_eq_nil_iff_blank.mp headed)]
      exact List.intercalate_splitOn ' '

theorem rewriteStage_of_host (headed : head? command = some head)
    (onHost : sandbox.classifier.isSandboxed head = false) :
    sandbox.rewriteStage command = command := by
  apply rewriteStage_of_hosts
  intro other isHead
  rw [headed, Option.some.injEq] at isHead
  rwa [← isHead]

/-- The first word of a launched command is the first word of the launcher. -/
theorem Launched.head?_rewriteStage (launched : Launched sandbox command head) {word : Text}
    (launcher : head? sandbox.conventions.launcher = some word) :
    head? (sandbox.rewriteStage command) = some word := by
  rcases launched with ⟨blanks, arguments, outcomes, -, isHead, -, rewritten⟩
  have noWord : blanks.findSome? head? = none := by
    rw [List.findSome?_eq_none_iff]
    intro blank member
    rw [isHead.2 blank member]
    rfl
  rw [rewritten, head?_intercalate, List.findSome?_append, noWord, Option.none_or,
    List.findSome?_cons, head?_append_blank, launcher]
  rfl

theorem Marked.length_flatten_le {tokens outcomes : List Text}
    (marked : Marked sandbox tokens outcomes) :
    tokens.flatten.length ≤ outcomes.flatten.length := by
  induction marked with
  | nil => simp
  | cons first _ ih =>
      rw [List.flatten_cons, List.flatten_cons, List.length_append, List.length_append]
      rcases first with rfl | rfl
      · exact Nat.add_le_add_left ih _
      · rw [List.length_append]
        omega

/-- A launched command is longer than it was. -/
theorem Launched.rewriteStage_ne (launched : Launched sandbox command head) :
    sandbox.rewriteStage command ≠ command := by
  rcases launched with ⟨blanks, arguments, outcomes, cut, -, marked, rewritten⟩
  intro same
  have whole : command = [' '].intercalate (blanks ++ head :: arguments) := by
    rw [← cut]
    exact (List.intercalate_splitOn ' ').symm
  have lengths := congrArg List.length (whole.symm.trans (same.symm.trans rewritten))
  have asMany : arguments.length = outcomes.length := List.Forall₂.length_eq marked
  have asLong := marked.length_flatten_le
  simp only [Text.length_intercalate, List.flatten_append, List.flatten_cons, List.length_append,
    List.length_cons, asMany] at lengths
  omega

theorem launched_iff (headed : head? command = some head) :
    Launched sandbox command head ↔ sandbox.classifier.isSandboxed head = true := by
  constructor
  · intro launched
    cases isSandboxed : sandbox.classifier.isSandboxed head with
    | true => rfl
    | false => exact absurd (rewriteStage_of_host headed isSandboxed) launched.rewriteStage_ne
  · exact launched_of_sandboxed headed

theorem rewriteStage_eq_self_iff (headed : head? command = some head) :
    sandbox.rewriteStage command = command ↔ sandbox.classifier.isSandboxed head = false := by
  constructor
  · intro same
    cases isSandboxed : sandbox.classifier.isSandboxed head with
    | true => exact absurd same (launched_of_sandboxed headed isSandboxed).rewriteStage_ne
    | false => rfl
  · exact rewriteStage_of_host headed

/-! ## Letters -/

/-- What is put before a token consists of the launcher and a blank, or of the marker. -/
theorem mem_insertion_text {insertion : Insertion} {conventions : Conventions} {letter : Char}
    (member : letter ∈ insertion.text conventions) :
    letter ∈ conventions.launcher ∨ letter ∈ conventions.pathMarker ∨ letter = ' ' := by
  cases insertion with
  | nothing => simp [Insertion.text] at member
  | launcher =>
      rw [Insertion.text, List.mem_append, List.mem_singleton] at member
      exact member.imp_right Or.inr
  | marker => exact Or.inr (Or.inl member)

theorem mem_rewriteStage {letter : Char} (member : letter ∈ sandbox.rewriteStage command) :
    letter ∈ sandbox.conventions.launcher ∨ letter ∈ sandbox.conventions.pathMarker ∨
      letter = ' ' ∨ letter ∈ command := by
  rw [rewriteStage_eq_mapIdx] at member
  rcases Text.mem_intercalate member with isBlank | ⟨piece, isPiece, inPiece⟩
  · exact Or.inr (Or.inr (Or.inl (List.mem_singleton.mp isBlank)))
  · rcases List.mem_mapIdx.mp isPiece with ⟨index, inRange, rfl⟩
    rcases List.mem_append.mp inPiece with inserted | inToken
    · exact (mem_insertion_text inserted).imp_right (Or.imp_right Or.inl)
    · have inCommand := Text.mem_of_mem_splitOn (List.getElem_mem inRange) inToken
      exact Or.inr (Or.inr (Or.inr inCommand))

theorem mem_rewriteStages {letter : Char} (member : letter ∈ sandbox.rewriteStages line) :
    letter ∈ sandbox.conventions.launcher ∨ letter ∈ sandbox.conventions.pathMarker ∨
      letter = ' ' ∨ letter = '|' ∨ letter ∈ line := by
  rcases Text.mem_intercalate member with isBar | ⟨piece, isPiece, inPiece⟩
  · exact Or.inr (Or.inr (Or.inr (Or.inl (List.mem_singleton.mp isBar))))
  · rcases List.mem_map.mp isPiece with ⟨command, isCommand, rfl⟩
    have inLine := fun inCommand : letter ∈ command => Text.mem_of_mem_splitOn isCommand inCommand
    exact (mem_rewriteStage inPiece).imp_right
      (Or.imp_right (Or.imp_right fun inCommand => Or.inr (inLine inCommand)))

/-! ## Lines without double quotes -/

theorem rewriteQuoted_of_quoteless (sandbox : Sandbox) (quoteless : '"' ∉ line) :
    sandbox.rewriteQuoted line = sandbox.rewriteStages line := by
  rw [rewriteQuoted, Quote.shield_of_quoteless quoteless, Quote.restore_empty]

theorem warning?_eq_none_iff (headed : head? command = some head) :
    sandbox.warning? line command = none ↔ ∃ found, sandbox.classifier head = .ok found := by
  rw [warning?, headed]
  cases answer : sandbox.classifier head <;> simp [answer]

theorem warning?_eq_some_iff (headed : head? command = some head) {error : Unclassified} :
    sandbox.warning? line command = some ⟨head, line, error⟩ ↔
      sandbox.classifier head = .error error := by
  rw [warning?, headed]
  cases answer : sandbox.classifier head <;> simp [answer]

theorem warnings_of_quoteless (sandbox : Sandbox) (quoteless : '"' ∉ line) :
    sandbox.warnings line = (line.splitOn '|').filterMap (sandbox.warning? line) := by
  rw [warnings, Quote.shield_of_quoteless quoteless]

end RunLine.Sandbox
