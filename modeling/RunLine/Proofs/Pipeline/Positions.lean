import RunLine.Proofs.Pipeline.Edits

/-!
# Rewriting a command by positions

Which pieces of a command get something put before them, said of each piece by what stands before
it: whether a word stands there at all, which word is the first one, and which is the nearest one.
Pieces that are empty, because blanks are repeated, neither count nor part anything.
-/

namespace RunLine

theorem Classifier.isSandboxed_eq_true_iff {classifier : Classifier} {head : Text} :
    classifier.isSandboxed head = true ↔ classifier head = .ok .sandboxed := by
  unfold Classifier.isSandboxed
  split
  · next sandboxed => simp [sandboxed]
  · next other => simpa using other

theorem Classifier.isSandboxed_eq_false_iff {classifier : Classifier} {head : Text} :
    classifier.isSandboxed head = false ↔ classifier head ≠ .ok .sandboxed := by
  rw [Bool.eq_false_iff, ne_eq, isSandboxed_eq_true_iff]

namespace Sandbox

variable {sandbox : Sandbox} {before first gap arguments : List Text}
variable {piece head near sign : Text}

/-! ## Words before a piece -/

/-- Pieces between blanks that are all empty. -/
def Blank (pieces : List Text) : Prop := ∀ piece ∈ pieces, piece = []

theorem words_eq_nil_iff_blank {pieces : List Text} : words pieces = [] ↔ Blank pieces :=
  words_eq_nil_iff

theorem words_cons_of_ne_nil (proper : piece ≠ []) (pieces : List Text) :
    words (piece :: pieces) = piece :: words pieces := by
  cases piece with
  | nil => exact absurd rfl proper
  | cons letter piece => rfl

/-- A piece is the head of its command: no word stands before it. -/
def IsHead (before : List Text) (piece : Text) : Prop := piece ≠ [] ∧ Blank before

/-- The head of a command stands among the pieces before one of its later pieces. -/
def HeadedBy (before : List Text) (head : Text) : Prop :=
  ∃ blanks rest, before = blanks ++ head :: rest ∧ IsHead blanks head

/-- The nearest word before a piece, and what stands before that word. -/
def NearestBy (before first : List Text) (near : Text) : Prop :=
  near ≠ [] ∧ ∃ gap, Blank gap ∧ before = first ++ near :: gap

theorem headedBy_iff : HeadedBy before head ↔ (words before).head? = some head := by
  constructor
  · rintro ⟨blanks, rest, rfl, proper, blank⟩
    rw [words_append, words_eq_nil_iff_blank.mpr blank, words_cons_of_ne_nil proper]
    rfl
  · intro isFirst
    rcases List.head?_eq_some_iff.mp isFirst with ⟨arguments, wordsEq⟩
    rcases List.filter_eq_cons_iff.mp wordsEq with ⟨blanks, rest, rfl, blank, proper, -⟩
    exact ⟨blanks, rest, rfl, by simpa using proper, by simpa [Blank] using blank⟩

theorem head?_eq_some_iff {command : Text} :
    head? command = some head ↔ HeadedBy (command.splitOn ' ') head := by
  rw [head?_eq, headedBy_iff]

theorem NearestBy.words_eq (nearest : NearestBy before first near) :
    words before = words first ++ [near] := by
  rcases nearest with ⟨proper, gap, blank, rfl⟩
  rw [words_append, words_cons_of_ne_nil proper, words_eq_nil_iff_blank.mpr blank]

/-- Where a word stands before a piece, one of them is the nearest. -/
theorem exists_nearestBy (some : words before ≠ []) : ∃ first near, NearestBy before first near := by
  rcases List.eq_nil_or_concat (words before) with none | ⟨initial, near, wordsEq⟩
  · exact absurd none some
  · rw [List.concat_eq_append] at wordsEq
    rcases List.filter_eq_append_iff.mp wordsEq with ⟨outer, inner, rfl, -, innerEq⟩
    rcases List.filter_eq_cons_iff.mp innerEq with ⟨between, gap, rfl, -, proper, gapEq⟩
    refine ⟨outer ++ between, near, by simpa using proper, gap, ?_, by simp⟩
    exact words_eq_nil_iff_blank.mp gapEq

/-! ## Redirections -/

/-- The signs after which the launcher connects a file itself. -/
def redirections : List Text := [['<'], ['>'], ['>', '>']]

theorem isRedirection_eq_true_iff {token : Text} :
    isRedirection token = true ↔ token ∈ redirections := by
  simp [isRedirection, redirections, or_assoc]

/-- The nearest word before a piece does not redirect it: that word is the head, or it is no
redirection. -/
def Undirected (before : List Text) : Prop :=
  ∃ first near, NearestBy before first near ∧ (IsHead first near ∨ near ∉ redirections)

theorem undirected_iff (wordsEq : words before = head :: arguments) :
    Undirected before ↔ arguments.getLast?.any isRedirection = false := by
  -- The words up to the nearest one: either there are none, and it is the head, or it is the last
  -- argument.
  have decided : ∀ first near, NearestBy before first near →
      ((IsHead first near ∨ near ∉ redirections) ↔
        arguments.getLast?.any isRedirection = false) := by
    intro first near nearest
    rw [nearest.words_eq] at wordsEq
    cases earlier : words first with
    | nil =>
        rw [earlier, List.nil_append, List.cons.injEq] at wordsEq
        rcases wordsEq with ⟨-, rfl⟩
        simp [IsHead, nearest.1, words_eq_nil_iff_blank.mp earlier]
    | cons other others =>
        rw [earlier, List.cons_append, List.cons.injEq] at wordsEq
        rcases wordsEq with ⟨-, rfl⟩
        have noHead : ¬ IsHead first near := by
          intro isHead
          simp [words_eq_nil_iff_blank.mpr isHead.2] at earlier
        rw [List.getLast?_concat, Option.any_some, Bool.eq_false_iff, ne_eq,
          isRedirection_eq_true_iff]
        simp [noHead]
  constructor
  · rintro ⟨first, near, nearest, free⟩
    exact (decided first near nearest).mp free
  · intro free
    have someWord : words before ≠ [] := by simp [wordsEq]
    rcases exists_nearestBy someWord with ⟨first, near, nearest⟩
    exact ⟨first, near, nearest, (decided first near nearest).mpr free⟩

/-! ## What is put before a piece -/

theorem insertion_eq_launcher_iff_isHead :
    sandbox.insertion before piece = .launcher ↔
      IsHead before piece ∧ sandbox.classifier piece = .ok .sandboxed := by
  rw [insertion_eq_launcher_iff, words_eq_nil_iff_blank, Classifier.isSandboxed_eq_true_iff,
    IsHead, and_assoc]

theorem insertion_eq_marker_iff_headedBy :
    sandbox.insertion before piece = .marker ↔
      piece ≠ [] ∧ (∃ head, HeadedBy before head ∧ sandbox.classifier head = .ok .sandboxed) ∧
        sandbox.namesFile piece = true ∧ Undirected before := by
  rw [insertion_eq_marker_iff]
  apply and_congr_right
  intro _
  constructor
  · rintro ⟨head, arguments, wordsEq, sandboxed, isFile, free⟩
    refine ⟨⟨head, ?_, Classifier.isSandboxed_eq_true_iff.mp sandboxed⟩, isFile, ?_⟩
    · rw [headedBy_iff, wordsEq]
      rfl
    · exact (undirected_iff wordsEq).mpr free
  · rintro ⟨⟨head, headed, sandboxed⟩, isFile, undirected⟩
    rcases List.head?_eq_some_iff.mp (headedBy_iff.mp headed) with ⟨arguments, wordsEq⟩
    exact ⟨head, arguments, wordsEq, Classifier.isSandboxed_eq_true_iff.mpr sandboxed, isFile,
      (undirected_iff wordsEq).mp undirected⟩

/-- A redirection reaches its target over any number of blanks. -/
theorem insertion_of_redirected (behindHead : ¬ Blank first) (isSign : sign ∈ redirections)
    (blank : Blank gap) (target : Text) :
    sandbox.insertion (first ++ sign :: gap) target = .nothing := by
  have proper : sign ≠ [] := by
    rintro rfl
    simp [redirections] at isSign
  have nearest : NearestBy (first ++ sign :: gap) first sign := ⟨proper, gap, blank, rfl⟩
  cases wordsEq : words first with
  | nil => exact absurd (words_eq_nil_iff_blank.mp wordsEq) behindHead
  | cons head arguments =>
      cases decided : sandbox.insertion (first ++ sign :: gap) target with
      | nothing => rfl
      | launcher =>
          rcases insertion_eq_launcher_iff.mp decided with ⟨-, noWords, -⟩
          simp [nearest.words_eq] at noWords
      | marker =>
          rcases insertion_eq_marker_iff.mp decided with ⟨-, _, arguments', wordsEq', -, -, free⟩
          rw [nearest.words_eq, wordsEq, List.cons_append, List.cons.injEq] at wordsEq'
          rcases wordsEq' with ⟨-, rfl⟩
          rw [List.getLast?_concat, Option.any_some, Bool.eq_false_iff, ne_eq,
            isRedirection_eq_true_iff] at free
          exact absurd isSign free

/-- Before a word whose nearest word does not redirect it, the marker depends on the head and on the
word alone. -/
theorem insertion_eq_marker_iff_of_undirected (proper : piece ≠ []) (undirected : Undirected before) :
    sandbox.insertion before piece = .marker ↔
      (∃ head, HeadedBy before head ∧ sandbox.classifier head = .ok .sandboxed) ∧
        sandbox.namesFile piece = true := by
  rw [insertion_eq_marker_iff_headedBy]
  simp [proper, undirected]

/-- A command is rewritten piece by piece, and each piece is decided by where it stands.  The
launcher goes before the head, the marker before later words that name files and are not redirected.
So a redirection reaches over blanks, a head that looks like one redirects nothing, and past the word
that it redirects it is forgotten. -/
theorem rewriteStage_by_position (sandbox : Sandbox) (command : Text) :
    sandbox.rewriteStage command =
        [' '].intercalate ((command.splitOn ' ').mapIdx fun index piece =>
          (sandbox.insertion ((command.splitOn ' ').take index) piece).text sandbox.conventions ++
            piece) ∧
      (∀ before piece, sandbox.insertion before piece = .launcher ↔
        IsHead before piece ∧ sandbox.classifier piece = .ok .sandboxed) ∧
      (∀ before piece, sandbox.insertion before piece = .marker ↔
        piece ≠ [] ∧ (∃ head, HeadedBy before head ∧ sandbox.classifier head = .ok .sandboxed) ∧
          sandbox.namesFile piece = true ∧ Undirected before) ∧
      (∀ first sign gap target, ¬ Blank first → sign ∈ redirections → Blank gap →
        sandbox.insertion (first ++ sign :: gap) target = .nothing) ∧
      (∀ blanks head gap target, IsHead blanks head → Blank gap → target ≠ [] →
        (sandbox.insertion (blanks ++ head :: gap) target = .marker ↔
          sandbox.classifier head = .ok .sandboxed ∧ sandbox.namesFile target = true)) ∧
      (∀ first head target gap next, HeadedBy first head → target ≠ [] → target ∉ redirections →
        Blank gap → next ≠ [] →
        (sandbox.insertion (first ++ target :: gap) next = .marker ↔
          sandbox.classifier head = .ok .sandboxed ∧ sandbox.namesFile next = true)) := by
  refine ⟨rewriteStage_eq_mapIdx sandbox command, ?_, ?_, ?_, ?_, ?_⟩
  · intro before piece
    exact insertion_eq_launcher_iff_isHead
  · intro before piece
    exact insertion_eq_marker_iff_headedBy
  · intro first sign gap target behindHead isSign blank
    exact insertion_of_redirected behindHead isSign blank target
  · intro blanks head gap target isHead blank proper
    have nearest : NearestBy (blanks ++ head :: gap) blanks head := ⟨isHead.1, gap, blank, rfl⟩
    rw [insertion_eq_marker_iff_of_undirected proper ⟨blanks, head, nearest, Or.inl isHead⟩]
    simp [headedBy_iff, words_eq_nil_iff_blank.mpr isHead.2, words_cons_of_ne_nil isHead.1]
  · intro first head target gap next headed properTarget noSign blank proper
    have nearest : NearestBy (first ++ target :: gap) first target :=
      ⟨properTarget, gap, blank, rfl⟩
    rw [insertion_eq_marker_iff_of_undirected proper ⟨first, target, nearest, Or.inr noSign⟩]
    simp [headedBy_iff, headedBy_iff.mp headed]

/-- A head that looks like a redirection, and a redirection far from its target. -/
example :
    rewriteStage
        ⟨⟨Text.lit "run", Text.lit "@", [], []⟩, fun _ => .ok .sandboxed,
          fun token => token.all Char.isAlpha⟩ (Text.lit "<  a >   b c") =
      Text.lit "run <  @a >   b @c" := by
  decide +kernel

end Sandbox

end RunLine
