import RunLine.Proofs.Pipeline.Edits
import RunLine.Proofs.Quote.RoundTrip

/-!
# Rewriting only inserts

Rewriting works on the shielded line, cuts it twice, joins it twice and puts the quotes back.  None
of this can be told from the outcome: up to the null device it is the line itself with something put
directly before some of its tokens.
-/

namespace RunLine.Sandbox

open RunLine.Quote

variable {sandbox : Sandbox} {script : Text}

/-! ## Where insertions stand -/

/-- The launcher stands before the first word of a command, and the marker before a later word of a
command that has the launcher. -/
def InPlace (command : List Edit) : Prop :=
  ∀ before edit after, command = before ++ edit :: after →
    (edit.insertion = .launcher → edit.shown ≠ [] ∧ ∀ other ∈ before, other.shown = []) ∧
      (edit.insertion = .marker → edit.shown ≠ [] ∧ ∃ head ∈ before, head.insertion = .launcher)

theorem inPlace_editsOfCommand (sandbox : Sandbox) (command : List (List Segment)) :
    InPlace (sandbox.editsOfCommand command) := by
  intro before edit after cut
  rw [insertion_eq cut]
  constructor
  · intro isLauncher
    rcases insertion_eq_launcher_iff.mp isLauncher with ⟨nonempty, noWords, -⟩
    refine ⟨nonempty, ?_⟩
    intro other member
    exact words_eq_nil_iff.mp noWords other.shown (List.mem_map_of_mem member)
  · intro isMarker
    rcases insertion_eq_marker_iff.mp isMarker with
      ⟨nonempty, head, arguments, before', sandboxed, -⟩
    refine ⟨nonempty, ?_⟩
    rcases List.filter_eq_cons_iff.mp before' with ⟨left, right, shownEq, leftEmpty, isWord, -⟩
    rcases List.map_eq_append_iff.mp shownEq with ⟨left', rest, rfl, rfl, restEq⟩
    rcases List.map_eq_cons_iff.mp restEq with ⟨headEdit, right', rfl, rfl, -⟩
    refine ⟨headEdit, by simp, ?_⟩
    rw [List.append_assoc, List.cons_append] at cut
    rw [insertion_eq cut]
    refine insertion_eq_launcher_iff.mpr ⟨by simpa using isWord, ?_, sandboxed⟩
    exact words_eq_nil_iff.mpr fun token member => by simpa using leftEmpty token member

/-- Without a sandboxed head nothing is inserted. -/
theorem insertion_of_hosts {line : List Segment}
    (hosts : ∀ command ∈ (line.flatMap Segment.shown).splitOn '|', ∀ head,
      head? command = some head → sandbox.classifier.isSandboxed head = false) :
    ∀ command ∈ sandbox.edits line, ∀ edit ∈ command, edit.insertion = .nothing := by
  intro command member edit member'
  rw [edits, tokensOf, List.map_map] at member
  rcases List.mem_map.mp member with ⟨piece, inLine, rfl⟩
  rcases List.append_of_mem member' with ⟨before, after, cut⟩
  have host := hosts (piece.flatMap Segment.shown) (by
    rw [splitOn_shown (by decide)]
    exact List.mem_map_of_mem inLine)
  have shownEq : (piece.splitOn (.bare ' ')).map (List.flatMap Segment.shown) =
      (before ++ edit :: after).map Edit.shown := by
    rw [← cut]
    exact (map_render_editsOfCommand sandbox _ Segment.shown).symm
  rw [insertion_eq cut]
  apply insertion_of_host
  intro head isHead
  apply host head
  rw [head?_eq, splitOn_shown (by decide), shownEq, List.append_cons, List.map_append,
    List.map_append, words_append, List.head?_append, List.map_singleton, isHead]
  rfl

/-! ## The rewritten line -/

/-- A line whose placeholders are read only where they were written is rewritten as the edits of its
segments say. -/
theorem rewriteQuoted_eq (fresh : Fresh script)
    (only : ∀ entry ∈ (quotesOf script).entries,
      OnlyWritten entry (sandbox.rewriteSegments (written script))) :
    sandbox.rewriteQuoted script =
      joinTokens '|' ' '
        ((sandbox.edits (written script)).map (List.map (Edit.output sandbox.conventions))) := by
  have restores :
      Restores (quotesOf script).entries (sandbox.rewriteSegments (written script)) := by
    apply fresh.restores _ only
    intro span member
    apply mem_written
    rw [← mem_filterMap_span?, ← filterMap_span?_rewriteSegments sandbox, mem_filterMap_span?]
    exact member
  calc
    sandbox.rewriteQuoted script =
        restore (quotesOf script) (sandbox.rewriteStages (shield script).text) := rfl
    _ = restore (quotesOf script)
          ((sandbox.rewriteSegments (written script)).flatMap Segment.shown) := by
      rw [flatMap_shown_rewriteSegments, flatMap_shown_written fresh]
    _ = (sandbox.rewriteSegments (written script)).flatMap Segment.text := restores.foldl_replace
    _ = _ := flatMap_text_rewriteSegments sandbox (written script)

/-- Rewriting only inserts.  The edits of a line are its tokens as the shielded line is cut; joined
by their sources they are the line, and joined by their outputs, each of which is the source with an
insertion before it, they are the rewritten line with its quotes in place.  Without a sandboxed head
the null device is all that changes. -/
theorem rewrite_only_inserts (sandbox : Sandbox) (fresh : Fresh script)
    (only : ∀ entry ∈ (shield script).quotes.entries,
      OnlyWritten entry (sandbox.rewriteSegments (written script))) :
    (sandbox.rewriteSegments (written script)).flatMap Segment.shown =
        sandbox.rewriteStages (shield script).text ∧
      (sandbox.edits (written script)).map (List.map Edit.shown) =
        ((shield script).text.splitOn '|').map (fun command => command.splitOn ' ') ∧
      joinTokens '|' ' ' ((sandbox.edits (written script)).map (List.map Edit.source)) = script ∧
      joinTokens '|' ' '
          ((sandbox.edits (written script)).map (List.map (Edit.output sandbox.conventions))) =
        sandbox.rewriteQuoted script ∧
      (∀ command ∈ sandbox.edits (written script), InPlace command) ∧
      ((∀ command ∈ (shield script).text.splitOn '|', ∀ head, head? command = some head →
          sandbox.classifier.isSandboxed head = false) →
        sandbox.rewrite script = renameNull sandbox.conventions script) := by
  have shownEq := flatMap_shown_written fresh
  have outputs := rewriteQuoted_eq fresh only
  have sources : joinTokens '|' ' '
      ((sandbox.edits (written script)).map (List.map Edit.source)) = script := by
    rw [joinTokens_source, flatMap_text_written]
  refine ⟨?_, ?_, sources, outputs.symm, ?_, ?_⟩
  · rw [flatMap_shown_rewriteSegments, shownEq]
  · rw [← shownEq, cut_shown]
    exact map_render_edits sandbox (written script) Segment.shown
  · intro command member
    rcases List.mem_map.mp member with ⟨tokens, -, rfl⟩
    exact inPlace_editsOfCommand sandbox tokens
  · intro hosts
    rw [← shownEq] at hosts
    have nothing := insertion_of_hosts hosts
    have same : (sandbox.edits (written script)).map (List.map (Edit.output sandbox.conventions)) =
        (sandbox.edits (written script)).map (List.map Edit.source) := by
      apply List.map_congr_left
      intro command member
      apply List.map_congr_left
      intro edit member'
      rw [Edit.output, nothing command member edit member']
      rfl
    rw [rewrite, outputs, same, sources]

/-- A sandbox with the one binary `app`, in which the names with a dot are files. -/
def sample : Sandbox where
  conventions := ⟨Text.lit "run", Text.lit "@", Text.lit "/dev/null", Text.lit "@null"⟩
  classifier head := .ok (if head = Text.lit "app" then .sandboxed else .host)
  namesFile token := token.contains '.'

/-- A line with blanks at its front, an empty command at its end, and two spans that shielding
breaks. -/
theorem rewrite_only_inserts_sample :
    Fresh (Text.lit " app  in.txt > o.txt \"a\"|\"|\" b.txt |") ∧
      (∀ entry ∈ (shield (Text.lit " app  in.txt > o.txt \"a\"|\"|\" b.txt |")).quotes.entries,
        OnlyWritten entry (sample.rewriteSegments
          (written (Text.lit " app  in.txt > o.txt \"a\"|\"|\" b.txt |")))) ∧
      joinTokens '|' ' ' ((sample.edits
          (written (Text.lit " app  in.txt > o.txt \"a\"|\"|\" b.txt |"))).map
            (List.map (Edit.output sample.conventions))) =
        sample.rewriteQuoted (Text.lit " app  in.txt > o.txt \"a\"|\"|\" b.txt |") ∧
      sample.rewriteQuoted (Text.lit " app  in.txt > o.txt \"a\"|\"|\" b.txt |") =
        Text.lit " run app  @in.txt > o.txt \"a\"|\"|\" b.txt |" := by
  have fresh : Fresh (Text.lit " app  in.txt > o.txt \"a\"|\"|\" b.txt |") := by decide +kernel
  have only :
      ∀ entry ∈ (shield (Text.lit " app  in.txt > o.txt \"a\"|\"|\" b.txt |")).quotes.entries,
        OnlyWritten entry (sample.rewriteSegments
          (written (Text.lit " app  in.txt > o.txt \"a\"|\"|\" b.txt |"))) := by
    decide +kernel
  have inserts := rewrite_only_inserts sample fresh only
  exact ⟨fresh, only, inserts.2.2.2.1, by decide +kernel⟩

end RunLine.Sandbox
