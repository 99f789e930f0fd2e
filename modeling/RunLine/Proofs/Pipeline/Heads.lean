import RunLine.Proofs.Pipeline.Positions

/-!
# What rewriting asks

A classifier is asked about the heads of the commands of a line and about nothing else, and only one
answer matters to the line: that a head is a sandboxed binary.  A detector is asked about the words
after such heads, unless they are redirected.  Sandboxes that agree there give the same line, and
classifiers that give the same answers for all heads give the same warnings.
-/

namespace RunLine

/-- An insertion is known from whether it is the launcher and whether it is the marker. -/
theorem Insertion.eq_of_iff {one other : Insertion} (launcher : one = .launcher ↔ other = .launcher)
    (marker : one = .marker ↔ other = .marker) : one = other := by
  cases one <;> cases other <;> simp_all

namespace Sandbox

/-- The heads of the commands of a script, as the shielded script shows them. -/
def heads (script : Text) : List Text := ((Quote.shield script).text.splitOn '|').filterMap head?

/-- Two classifiers take the same heads of a script for sandboxed binaries. -/
def AgreeOnSandboxed (script : Text) (one other : Classifier) : Prop :=
  ∀ head ∈ heads script, one head = .ok .sandboxed ↔ other head = .ok .sandboxed

/-- A detector is asked about a word of a command: a head before it is a sandboxed binary, and the
nearest word before it does not redirect it. -/
def Inspects (sandbox : Sandbox) (command token : Text) : Prop :=
  token ≠ [] ∧ ∃ before after, command.splitOn ' ' = before ++ token :: after ∧
    (∃ head, HeadedBy before head ∧ sandbox.classifier head = .ok .sandboxed) ∧ Undirected before

/-- A detector gives the same answer as that of a sandbox for every word of a script that the
sandbox asks about. -/
def AgreeOnFiles (sandbox : Sandbox) (script : Text) (namesFile : Detector) : Prop :=
  ∀ command ∈ (Quote.shield script).text.splitOn '|', ∀ token, sandbox.Inspects command token →
    namesFile token = sandbox.namesFile token

instance (script : Text) (one other : Classifier) :
    Decidable (AgreeOnSandboxed script one other) :=
  inferInstanceAs (Decidable (∀ head ∈ heads script,
    one head = .ok .sandboxed ↔ other head = .ok .sandboxed))

variable {sandbox : Sandbox} {classifier : Classifier} {namesFile : Detector}
variable {script command : Text}

/-! ## The rewritten line -/

theorem insertion_congr {before : List Text} {piece : Text}
    (same : ∀ head, (words (before ++ [piece])).head? = some head →
      (classifier head = .ok .sandboxed ↔ sandbox.classifier head = .ok .sandboxed))
    (sameFile : piece ≠ [] →
      (∃ head, HeadedBy before head ∧ sandbox.classifier head = .ok .sandboxed) →
      Undirected before → namesFile piece = sandbox.namesFile piece) :
    ({ sandbox with classifier, namesFile } : Sandbox).insertion before piece =
      sandbox.insertion before piece := by
  have sameHead : ∀ head, HeadedBy before head →
      (classifier head = .ok .sandboxed ↔ sandbox.classifier head = .ok .sandboxed) := by
    intro head headed
    apply same
    rw [words_append, List.head?_append, headedBy_iff.mp headed]
    rfl
  apply Insertion.eq_of_iff
  · rw [insertion_eq_launcher_iff_isHead, insertion_eq_launcher_iff_isHead]
    apply and_congr_right
    rintro ⟨proper, blank⟩
    apply same
    rw [words_append, words_eq_nil_iff_blank.mpr blank, words_cons_of_ne_nil proper]
    rfl
  · rw [insertion_eq_marker_iff_headedBy, insertion_eq_marker_iff_headedBy]
    apply and_congr_right
    intro proper
    have sandboxed : (∃ head, HeadedBy before head ∧ classifier head = .ok .sandboxed) ↔
        ∃ head, HeadedBy before head ∧ sandbox.classifier head = .ok .sandboxed :=
      exists_congr fun head => and_congr_right (sameHead head)
    rw [sandboxed]
    apply and_congr_right
    intro isSandboxed
    apply and_congr_left
    intro undirected
    exact Bool.eq_iff_iff.mp (sameFile proper isSandboxed undirected)

theorem rewriteStage_congr
    (same : ∀ head, head? command = some head →
      (classifier head = .ok .sandboxed ↔ sandbox.classifier head = .ok .sandboxed))
    (sameFiles : ∀ token, sandbox.Inspects command token →
      namesFile token = sandbox.namesFile token) :
    ({ sandbox with classifier, namesFile } : Sandbox).rewriteStage command =
      sandbox.rewriteStage command := by
  rw [rewriteStage_eq_mapIdx, rewriteStage_eq_mapIdx]
  apply congrArg
  rw [List.mapIdx_eq_mapIdx_iff]
  intro index inRange
  have cut : command.splitOn ' ' = (command.splitOn ' ').take index ++
      (command.splitOn ' ')[index] :: (command.splitOn ' ').drop (index + 1) := by
    rw [List.getElem_cons_drop, List.take_append_drop]
  rw [insertion_congr]
  · intro head isFirst
    apply same
    rw [head?_eq, cut, List.append_cons, words_append, List.head?_append, isFirst]
    rfl
  · intro proper headed undirected
    exact sameFiles _ ⟨proper, _, _, cut, headed, undirected⟩

/-- Nothing in a line depends on what a classifier says of a head, but for whether it is a sandboxed
binary, and on what a detector says of a token that it is not asked about. -/
theorem rewrite_congr (same : AgreeOnSandboxed script classifier sandbox.classifier)
    (sameFiles : sandbox.AgreeOnFiles script namesFile) :
    ({ sandbox with classifier, namesFile } : Sandbox).rewrite script = sandbox.rewrite script := by
  have stages : ∀ command ∈ (Quote.shield script).text.splitOn '|',
      ({ sandbox with classifier, namesFile } : Sandbox).rewriteStage command =
        sandbox.rewriteStage command := by
    intro command member
    apply rewriteStage_congr _ (sameFiles command member)
    intro head headed
    exact same head (List.mem_filterMap.mpr ⟨command, member, headed⟩)
  rw [rewrite, rewrite, rewriteQuoted, rewriteQuoted, rewriteStages, rewriteStages,
    List.map_congr_left stages]

/-! ## The words that are asked about -/

/-- A detector is asked about the words that get the marker if it takes every word for a file. -/
theorem inspects_iff {token : Text} :
    sandbox.Inspects command token ↔
      ∃ index, ∃ inRange : index < (command.splitOn ' ').length,
        (command.splitOn ' ')[index] = token ∧
          ({ sandbox with namesFile := fun _ => true } : Sandbox).insertion
            ((command.splitOn ' ').take index) token = .marker := by
  constructor
  · rintro ⟨proper, before, after, cut, headed, undirected⟩
    refine ⟨before.length, by simp [cut], by simp [cut], ?_⟩
    have taken : (command.splitOn ' ').take before.length = before := by simp [cut]
    rw [taken, insertion_eq_marker_iff_headedBy]
    exact ⟨proper, headed, rfl, undirected⟩
  · rintro ⟨index, inRange, rfl, marked⟩
    rcases insertion_eq_marker_iff_headedBy.mp marked with ⟨proper, headed, -, undirected⟩
    refine ⟨proper, _, (command.splitOn ' ').drop (index + 1), ?_, headed, undirected⟩
    rw [List.getElem_cons_drop, List.take_append_drop]

theorem agreeOnFiles_iff :
    sandbox.AgreeOnFiles script namesFile ↔
      ∀ command ∈ (Quote.shield script).text.splitOn '|',
        ∀ index, ∀ inRange : index < (command.splitOn ' ').length,
          ({ sandbox with namesFile := fun _ => true } : Sandbox).insertion
              ((command.splitOn ' ').take index) (command.splitOn ' ')[index] = .marker →
            namesFile (command.splitOn ' ')[index] =
              sandbox.namesFile (command.splitOn ' ')[index] := by
  constructor
  · intro agree command member index inRange marked
    exact agree command member _ (inspects_iff.mpr ⟨index, inRange, rfl, marked⟩)
  · intro agree command member token inspected
    rcases inspects_iff.mp inspected with ⟨index, inRange, rfl, marked⟩
    exact agree command member index inRange marked

instance : Decidable (sandbox.AgreeOnFiles script namesFile) :=
  decidable_of_iff _ agreeOnFiles_iff.symm

/-! ## The warnings -/

end Sandbox

end RunLine
