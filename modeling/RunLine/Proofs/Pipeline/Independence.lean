import RunLine.Proofs.Pipeline.NullDevice
import RunLine.Proofs.Pipeline.Reference
import RunLine.Proofs.Quote.Parting

/-!
# Commands are rewritten independently

Shielding, restoring and renaming the null device look at a whole line, yet a bar outside of spans
parts two lines that know nothing of each other: their spans, their placeholders, their edits and
their warnings are those that each of them has alone.
-/

namespace RunLine

def Warning.complaint (warning : Warning) : Text × Unclassified := (warning.token, warning.error)

namespace Sandbox

open Quote

variable {sandbox : Sandbox} {first second script : Text}

/-! ## Lines that can be read by positions -/

/-- The text of a span can be read only where a span was matched, distinct spans have distinct
placeholders, none of which occurs in the line, and in the joined commands they are read only where
they were written. -/
structure Legible (sandbox : Sandbox) (script : Text) : Prop where
  matchedOnly : MatchedOnly script
  distinguished : Distinguished script
  fresh : Fresh script
  only : ∀ entry ∈ (shield script).quotes.entries,
    OnlyWritten entry (sandbox.rewriteSegments (written script))

namespace Legible

theorem written_eq (legible : Legible sandbox script) : written script = segments script :=
  written_of_guarded legible.distinguished legible.matchedOnly.guarded

theorem text_shield (legible : Legible sandbox script) :
    (shield script).text = (segments script).flatMap Segment.shown := by
  rw [← flatMap_shown_written legible.fresh, legible.written_eq]

theorem rewriteQuoted_eq (legible : Legible sandbox script) :
    sandbox.rewriteQuoted script =
      (sandbox.rewriteSegments (segments script)).flatMap Segment.text := by
  rw [Sandbox.rewriteQuoted_eq legible.fresh legible.only, flatMap_text_rewriteSegments,
    legible.written_eq]

end Legible

theorem rewriteSegments_append_bar (sandbox : Sandbox) (left right : List Segment) :
    sandbox.rewriteSegments (left ++ .bare '|' :: right) =
      sandbox.rewriteSegments left ++ .bare '|' :: sandbox.rewriteSegments right := by
  rw [rewriteSegments, edits, tokensOf_append_bar, List.map_append, List.map_append]
  apply joinTokens_append
  · simpa using tokensOf_ne_nil left
  · simpa using tokensOf_ne_nil right

theorem MatchedOnly.sides (matchedOnly : MatchedOnly (first ++ '|' :: second))
    (closed : .bare '"' ∉ segments first) : MatchedOnly first ∧ MatchedOnly second := by
  rw [MatchedOnly, spans_append_bar closed, matchesOf, segments_append_bar closed,
    List.length_append, List.length_cons] at matchedOnly
  constructor
  · intro span isIn offset inRange front
    have inWhole := matchedOnly span (List.mem_append_left _ isIn) offset (by omega)
      (prefix_drop_append_cons.1 inRange front)
    rcases List.mem_map.mp inWhole with ⟨⟨start, other⟩, matched, rfl⟩
    rw [mem_places_left rfl (by simpa using Nat.le_of_lt inRange)] at matched
    exact List.mem_map.mpr ⟨_, matched, rfl⟩
  · intro span isIn offset inRange front
    have inWhole := matchedOnly span (List.mem_append_right _ isIn) _ (by omega)
      (prefix_drop_append_cons.2 front)
    rcases List.mem_map.mp inWhole with ⟨⟨start, other⟩, matched, startEq⟩
    have placed : (((segments first).flatMap Segment.text).length + 1 + offset, other) ∈
        places Segment.text 0 (segments first ++ .bare '|' :: segments second) := by
      rwa [flatMap_text_segments, ← startEq]
    exact List.mem_map.mpr ⟨_, (mem_places_right rfl).mp placed, rfl⟩

/-- Where a bar parts a legible line outside of spans, both of its sides are legible. -/
theorem Legible.sides (legible : Legible sandbox (first ++ '|' :: second))
    (closed : .bare '"' ∉ segments first) : Legible sandbox first ∧ Legible sandbox second := by
  have distinguished := legible.distinguished
  have matched := legible.matchedOnly.sides closed
  have subset : (∀ span ∈ spans first, span ∈ spans (first ++ '|' :: second)) ∧
      ∀ span ∈ spans second, span ∈ spans (first ++ '|' :: second) := by
    rw [spans_append_bar closed]
    exact ⟨fun _ => List.mem_append_left _, fun _ => List.mem_append_right _⟩
  have inside : first <:+: first ++ '|' :: second ∧ second <:+: first ++ '|' :: second :=
    ⟨(List.prefix_append _ _).isInfix,
      ((List.suffix_cons _ _).trans (List.suffix_append _ _)).isInfix⟩
  have firstDistinguished := distinguished.mono subset.1
  have secondDistinguished := distinguished.mono subset.2
  have only : ∀ entry ∈ (quotesOf (first ++ '|' :: second)).entries,
      OnlyWritten entry (sandbox.rewriteSegments (segments first)) ∧
        OnlyWritten entry (sandbox.rewriteSegments (segments second)) := by
    intro entry member
    have whole := legible.only entry member
    rw [legible.written_eq, segments_append_bar closed, rewriteSegments_append_bar] at whole
    exact whole.parts
  constructor
  · refine ⟨matched.1, firstDistinguished, legible.fresh.mono distinguished subset.1 inside.1, ?_⟩
    intro entry member
    rw [written_of_guarded firstDistinguished matched.1.guarded]
    exact (only entry (distinguished.mem_quotesOf_of_subset subset.1 member)).1
  · refine ⟨matched.2, secondDistinguished, legible.fresh.mono distinguished subset.2 inside.2, ?_⟩
    intro entry member
    rw [written_of_guarded secondDistinguished matched.2.guarded]
    exact (only entry (distinguished.mem_quotesOf_of_subset subset.2 member)).2

/-- A line without double quotes is legible. -/
theorem legible_of_quoteless (sandbox : Sandbox) (quoteless : '"' ∉ script) :
    Legible sandbox script := by
  have noSpans := spans_of_quoteless quoteless
  have noEntries : (quotesOf script).entries = [] := by
    rw [quotesOf, noSpans]
    rfl
  refine ⟨?_, ?_, ?_, ?_⟩
  · intro span member
    simp [noSpans] at member
  · intro span member
    simp [noSpans] at member
  · intro entry member
    simp [noEntries] at member
  · intro entry member
    rw [show (shield script).quotes.entries = [] from noEntries] at member
    simp at member

/-! ## The two sides of a bar -/

/-- What is wrong with a command does not depend on the line that a warning quotes. -/
theorem map_complaint_warning? (sandbox : Sandbox) (script other command : Text) :
    (sandbox.warning? script command).map Warning.complaint =
      (sandbox.warning? other command).map Warning.complaint := by
  rw [warning?, warning?]
  cases head? command with
  | none => rfl
  | some head => cases answer : sandbox.classifier head <;> simp [answer, Warning.complaint]

/-- Apart from the line that they quote, the warnings about a line are those about its commands. -/
theorem map_complaint_warnings (sandbox : Sandbox) (script other : Text) :
    (sandbox.warnings script).map Warning.complaint =
      ((shield script).text.splitOn '|').filterMap fun command =>
        (sandbox.warning? other command).map Warning.complaint := by
  rw [warnings, List.map_filterMap]
  exact List.filterMap_congr fun command _ => sandbox.map_complaint_warning? script other command

/-- A line cut at a bar is rewritten on each side by itself, and its warnings are those of the two
sides. -/
def RewrittenApart (sandbox : Sandbox) (first second : Text) : Prop :=
  sandbox.rewrite (first ++ '|' :: second) =
      sandbox.rewrite first ++ '|' :: sandbox.rewrite second ∧
    (sandbox.warnings (first ++ '|' :: second)).map Warning.complaint =
      (sandbox.warnings first).map Warning.complaint ++
        (sandbox.warnings second).map Warning.complaint

theorem Legible.rewrittenApart (legible : Legible sandbox (first ++ '|' :: second))
    (noBar : '|' ∉ sandbox.conventions.nullDevice) (closed : .bare '"' ∉ segments first) :
    RewrittenApart sandbox first second := by
  rcases legible.sides closed with ⟨firstLegible, secondLegible⟩
  constructor
  · have quoted : sandbox.rewriteQuoted (first ++ '|' :: second) =
        sandbox.rewriteQuoted first ++ '|' :: sandbox.rewriteQuoted second := by
      rw [legible.rewriteQuoted_eq, firstLegible.rewriteQuoted_eq, secondLegible.rewriteQuoted_eq,
        segments_append_bar closed, rewriteSegments_append_bar, List.flatMap_append,
        List.flatMap_cons]
      rfl
    rw [rewrite, quoted, renameNull_append_cons _ noBar]
    rfl
  · have shielded : (shield (first ++ '|' :: second)).text =
        (shield first).text ++ '|' :: (shield second).text := by
      rw [legible.text_shield, firstLegible.text_shield, secondLegible.text_shield,
        segments_append_bar closed, List.flatMap_append, List.flatMap_cons]
      rfl
    rw [map_complaint_warnings _ _ first, map_complaint_warnings _ first first,
      map_complaint_warnings _ second first, shielded, List.splitOn_append_cons_self,
      List.filterMap_append]

/-- The commands on both sides of a bar are rewritten independently: for a legible line whose bar
lies outside of spans, and for every line without double quotes.  The joined commands of which
legibility speaks are what the rewritten segments show. -/
theorem rewrite_append_bar (sandbox : Sandbox) (noBar : '|' ∉ sandbox.conventions.nullDevice)
    (first second : Text) :
    (.bare '"' ∉ segments first → Legible sandbox (first ++ '|' :: second) →
        (sandbox.rewriteSegments (written (first ++ '|' :: second))).flatMap Segment.shown =
            sandbox.rewriteStages (shield (first ++ '|' :: second)).text ∧
          RewrittenApart sandbox first second) ∧
      ('"' ∉ first → '"' ∉ second → RewrittenApart sandbox first second) := by
  constructor
  · intro closed legible
    constructor
    · rw [flatMap_shown_rewriteSegments, flatMap_shown_written legible.fresh]
    · exact legible.rewrittenApart noBar closed
  · intro firstQuoteless secondQuoteless
    have quoteless : '"' ∉ first ++ '|' :: second := by
      simp [firstQuoteless, secondQuoteless]
    have closed : .bare '"' ∉ segments first := by
      intro member
      apply firstQuoteless
      rw [← flatMap_text_segments first]
      exact List.mem_flatMap.mpr ⟨_, member, List.mem_singleton_self _⟩
    exact (legible_of_quoteless sandbox quoteless).rewrittenApart noBar closed

/-- A sandbox in which a head that is neither of two known names cannot be classified. -/
def sampleWithGaps : Sandbox where
  conventions := sample.conventions
  classifier head :=
    if head = Text.lit "app" then .ok .sandboxed
    else if head = Text.lit "grep" then .ok .host
    else .error (.notFound head)
  namesFile := sample.namesFile

/-- Heads that cannot be classified stand on both sides, and so do spans with bars and signs. -/
theorem rewrite_append_bar_sample :
    '|' ∉ sampleWithGaps.conventions.nullDevice ∧
      .bare '"' ∉ segments (Text.lit "what x|app \"x | y\" in.txt > /dev/null") ∧
      Legible sampleWithGaps
        (Text.lit "what x|app \"x | y\" in.txt > /dev/null" ++ '|' ::
          Text.lit " why |grep \">\" in.txt") ∧
      RewrittenApart sampleWithGaps (Text.lit "what x|app \"x | y\" in.txt > /dev/null")
        (Text.lit " why |grep \">\" in.txt") ∧
      (sampleWithGaps.warnings (Text.lit "what x|app \"x | y\" in.txt > /dev/null" ++ '|' ::
          Text.lit " why |grep \">\" in.txt")).map Warning.complaint =
        [(Text.lit "what", .notFound (Text.lit "what")),
          (Text.lit "why", .notFound (Text.lit "why"))] := by
  have noBar : '|' ∉ sampleWithGaps.conventions.nullDevice := by decide
  have closed : .bare '"' ∉ segments (Text.lit "what x|app \"x | y\" in.txt > /dev/null") := by
    decide +kernel
  have legible : Legible sampleWithGaps
      (Text.lit "what x|app \"x | y\" in.txt > /dev/null" ++ '|' ::
        Text.lit " why |grep \">\" in.txt") := by
    constructor
    · decide +kernel
    · decide +kernel
    · decide +kernel
    · decide +kernel
  have apart := (rewrite_append_bar sampleWithGaps noBar _ _).1 closed legible
  exact ⟨noBar, closed, legible, apart.2, by decide +kernel⟩

end Sandbox

end RunLine
