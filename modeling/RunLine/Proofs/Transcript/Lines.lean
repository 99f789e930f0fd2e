import Mathlib.Data.List.Infix
import RunLine.Transcript

/-!
# The lines of an input

A newline ends a line.  What follows the last newline is a line as well, unless it is nothing, so
an empty input has no lines.  Every input is cut into lines in exactly one way.  A carriage return
before the newline, or at the very end, belongs to the line end.
-/

namespace RunLine.Transcript

/-! ## Cutting at newlines -/

/-- An input and its lines, without their newlines. -/
inductive Cut : Bytes → List Bytes → Prop where
  | nothing : Cut [] []
  | unended {line : Bytes} (some : line ≠ []) (whole : 10 ∉ line) : Cut line [line]
  | ended {line rest : Bytes} {lines : List Bytes} (whole : 10 ∉ line) (later : Cut rest lines) :
      Cut (line ++ 10 :: rest) (line :: lines)

/-- The pieces between newlines, less the nothing that follows the last newline. -/
def rawLines (input : Bytes) : List Bytes :=
  let pieces := input.splitOn 10
  if pieces.getLast? = some [] then pieces.dropLast else pieces

theorem inputLines_eq (input : Bytes) : inputLines input = (rawLines input).map withoutReturn := rfl

theorem rawLines_append_cons {line : Bytes} (whole : 10 ∉ line) (rest : Bytes) :
    rawLines (line ++ 10 :: rest) = line :: rawLines rest := by
  have morePieces : rest.splitOn 10 ≠ [] := List.splitOn_ne_nil 10 rest
  simp only [rawLines]
  rw [List.splitOn_append_cons_self_of_not_mem whole, List.getLast?_cons_of_ne_nil morePieces,
    List.dropLast_cons_of_ne_nil morePieces]
  split
  · rfl
  · rfl

theorem Cut.rawLines_eq {input : Bytes} {lines : List Bytes} (cut : Cut input lines) :
    rawLines input = lines := by
  induction cut with
  | nothing => rfl
  | unended some whole =>
      rw [rawLines, List.splitOn_eq_singleton whole]
      simpa using some
  | ended whole _ ih => rw [rawLines_append_cons whole, ih]

theorem Cut.unique {input : Bytes} {one other : List Bytes} (cut : Cut input one)
    (otherCut : Cut input other) : one = other := by
  rw [← cut.rawLines_eq, otherCut.rawLines_eq]

/-! ## Carriage returns -/

@[simp] theorem withoutReturn_concat (line : Bytes) : withoutReturn (line ++ [13]) = line := by
  simp [withoutReturn]

theorem withoutReturn_of_ne {line : Bytes} (noReturn : line.getLast? ≠ some 13) :
    withoutReturn line = line := if_neg noReturn

/-- Lines and an input that consists of them.  Each line has a newline at its end, which a carriage
return may precede; the last line may do without, unless it is empty. -/
inductive Ended : List Bytes → Bytes → Prop where
  | nothing : Ended [] []
  | unended {line : Bytes} (some : line ≠ []) : Ended [line] line
  | newline {line rest : Bytes} {lines : List Bytes} (later : Ended lines rest) :
      Ended (line :: lines) (line ++ 10 :: rest)
  | returnNewline {line rest : Bytes} {lines : List Bytes} (later : Ended lines rest) :
      Ended (line :: lines) (line ++ 13 :: 10 :: rest)

/-- Lines that hold no newline and end in no carriage return are found again, however they were
ended. -/
theorem Ended.inputLines_eq {lines : List Bytes} {input : Bytes} (ended : Ended lines input)
    (whole : ∀ line ∈ lines, 10 ∉ line ∧ line.getLast? ≠ some 13) : inputLines input = lines := by
  suffices raw : ∃ pieces, Cut input pieces ∧ pieces.map withoutReturn = lines by
    rcases raw with ⟨pieces, cut, trimmed⟩
    rw [Transcript.inputLines_eq, cut.rawLines_eq, trimmed]
  induction ended with
  | nothing => exact ⟨[], .nothing, rfl⟩
  | @unended line some =>
      rcases whole line (by simp) with ⟨noNewline, noReturn⟩
      exact ⟨[line], .unended some noNewline, by simp [withoutReturn_of_ne noReturn]⟩
  | @newline line rest lines later ih =>
      rcases whole line (by simp) with ⟨noNewline, noReturn⟩
      rcases ih fun other member => whole other (by simp [member]) with ⟨pieces, cut, trimmed⟩
      exact ⟨line :: pieces, .ended noNewline cut, by simp [withoutReturn_of_ne noReturn, trimmed]⟩
  | @returnNewline line rest lines later ih =>
      rcases whole line (by simp) with ⟨noNewline, -⟩
      rcases ih fun other member => whole other (by simp [member]) with ⟨pieces, cut, trimmed⟩
      refine ⟨(line ++ [13]) :: pieces, ?_, by simp [trimmed]⟩
      have cutHere : Cut ((line ++ [13]) ++ 10 :: rest) ((line ++ [13]) :: pieces) :=
        .ended (by simp [noNewline]) cut
      simpa using cutHere

end RunLine.Transcript
