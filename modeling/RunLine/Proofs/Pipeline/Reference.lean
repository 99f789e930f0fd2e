import RunLine.Proofs.Pipeline.Frame
import RunLine.Proofs.Quote.Hiding

/-!
# Rewriting by positions

If the text of a span can be read only where a span was matched, rewriting is what one would write
down without any placeholder: the line is cut at the separators outside of spans, insertions are
decided token by token, and the pieces are joined again.
-/

namespace RunLine.Sandbox

open RunLine.Quote

variable {sandbox : Sandbox} {script : Text}

/-- Whoever reads the text of a span in a text reads it where a span was matched. -/
def MatchedOnly (text : Text) : Prop :=
  ∀ span ∈ spans text, ∀ offset < text.length, span <+: text.drop offset →
    offset ∈ (matchesOf text).map Prod.fst

instance (text : Text) : Decidable (MatchedOnly text) :=
  inferInstanceAs (Decidable (∀ span ∈ spans text, ∀ offset < text.length,
    span <+: text.drop offset → offset ∈ (matchesOf text).map Prod.fst))

/-- Then a matched span guards each such place, since no two spans start at one place. -/
theorem MatchedOnly.guarded {text : Text} (matchedOnly : MatchedOnly text) : Guarded text := by
  intro span isIn offset inRange front
  have isSpan := isSpan_of_mem_spans isIn
  rcases List.mem_map.mp (matchedOnly span isIn offset inRange front) with
    ⟨⟨start, other⟩, matched, rfl⟩
  have otherSpan := isSpan_of_mem_spans (mem_spans_of_mem_matchesOf matched)
  have otherFront := prefix_of_mem_matchesOf matched
  have same : other = span := otherSpan.unique isSpan otherFront front
  have positive := List.length_pos_iff.mpr isSpan.ne_nil
  refine ⟨(start, other), matched, ?_, ?_, Or.inr ⟨same, le_refl _⟩⟩
  · exact Nat.lt_add_of_pos_right positive
  · rw [same]
    exact Nat.lt_add_of_pos_right positive

/-- The outcome without substitution: the matched segments of a line, cut at bare separators, with
their insertions. -/
def rewriteInPlace (sandbox : Sandbox) (script : Text) : Text :=
  renameNull sandbox.conventions
    (joinTokens '|' ' '
      ((sandbox.edits (segments script)).map (List.map (Edit.output sandbox.conventions))))

/-- Rewriting treats spans as atoms, if their texts are read only where they were matched, if they
have placeholders of their own, none of which occurs in the line, and if those are read in the
joined commands only where they were written. -/
theorem rewrite_eq_rewriteInPlace (sandbox : Sandbox) (matchedOnly : MatchedOnly script)
    (distinguished : Distinguished script) (fresh : Fresh script)
    (only : ∀ entry ∈ (shield script).quotes.entries,
      OnlyWritten entry (sandbox.rewriteSegments (written script))) :
    (sandbox.rewriteSegments (written script)).flatMap Segment.shown =
        sandbox.rewriteStages (shield script).text ∧
      sandbox.rewrite script = sandbox.rewriteInPlace script := by
  constructor
  · rw [flatMap_shown_rewriteSegments, flatMap_shown_written fresh]
  · have writtenEq := written_of_guarded distinguished matchedOnly.guarded
    rw [rewrite, rewriteQuoted_eq fresh only, writtenEq, rewriteInPlace]

/-- Bars, blanks and signs within spans are seen by nobody. -/
theorem rewrite_eq_rewriteInPlace_sample :
    MatchedOnly (Text.lit "app \"x | y\"  in.txt > o.txt|grep \">\" in.txt") ∧
      Distinguished (Text.lit "app \"x | y\"  in.txt > o.txt|grep \">\" in.txt") ∧
      Fresh (Text.lit "app \"x | y\"  in.txt > o.txt|grep \">\" in.txt") ∧
      sample.rewrite (Text.lit "app \"x | y\"  in.txt > o.txt|grep \">\" in.txt") =
        sample.rewriteInPlace (Text.lit "app \"x | y\"  in.txt > o.txt|grep \">\" in.txt") ∧
      sample.rewriteInPlace (Text.lit "app \"x | y\"  in.txt > o.txt|grep \">\" in.txt") =
        Text.lit "run app \"x | y\"  @in.txt > o.txt|grep \">\" in.txt" := by
  have matchedOnly : MatchedOnly (Text.lit "app \"x | y\"  in.txt > o.txt|grep \">\" in.txt") := by
    decide +kernel
  have distinguished :
      Distinguished (Text.lit "app \"x | y\"  in.txt > o.txt|grep \">\" in.txt") := by
    decide +kernel
  have fresh : Fresh (Text.lit "app \"x | y\"  in.txt > o.txt|grep \">\" in.txt") := by
    decide +kernel
  have treats :=
    rewrite_eq_rewriteInPlace sample matchedOnly distinguished fresh (by decide +kernel)
  exact ⟨matchedOnly, distinguished, fresh, treats.2, by decide +kernel⟩

end RunLine.Sandbox
