import RunLine.Proofs.Quote.Entries
import RunLine.Proofs.Quote.Lines

/-!
# The spans that are matched

The matched spans of a text are given without reference to how they are searched: they are the one
list of disjoint substrings, each of the form of a span, that leaves every line settled.  The quote
map of the text follows from this list alone.
-/

namespace RunLine.Quote

/-! ## Lists of substrings -/

/-- A substring stands in a text that is counted from an offset. -/
def StandsAt (text : Text) (start : Nat) (place : Nat × Text) : Prop :=
  ∃ before after, text = before ++ place.2 ++ after ∧ start + before.length = place.1

/-- Substrings of a text, each with its offset, from left to right and disjoint. -/
structure Substrings (text : Text) (start : Nat) (found : List (Nat × Text)) : Prop where
  stand : ∀ place ∈ found, StandsAt text start place
  disjoint : found.Pairwise fun one other => one.1 + one.2.length ≤ other.1

/-- The segments of a text in which given substrings are quoted and all else is bare.  The text
is counted from an offset. -/
def quoteAt : Nat → List (Nat × Text) → Text → List Segment
  | _, [], text => text.map .bare
  | start, (offset, span) :: found, text =>
      (text.take (offset - start)).map .bare ++
        .quoted span ::
          quoteAt (offset + span.length) found (text.drop (offset - start + span.length))

variable {before after text span : Text} {found : List (Nat × Text)} {start : Nat}
variable {parts : List Segment}

theorem quoteAt_cons (start : Nat) (before span after : Text) (found : List (Nat × Text)) :
    quoteAt start ((start + before.length, span) :: found) (before ++ span ++ after) =
      before.map .bare ++
        .quoted span :: quoteAt (start + before.length + span.length) found after := by
  have gap : start + before.length - start = before.length := by omega
  rw [quoteAt, gap, List.append_assoc, List.take_left, ← List.drop_drop, List.drop_left,
    List.drop_left]

/-- What stands behind a substring stands in the rest of the text. -/
theorem Substrings.tail (listed : Substrings (before ++ span ++ after) start
    ((start + before.length, span) :: found)) :
    Substrings after (start + before.length + span.length) found := by
  rcases List.pairwise_cons.mp listed.disjoint with ⟨behind, disjoint⟩
  refine ⟨?_, disjoint⟩
  intro place member
  have far : start + before.length + span.length ≤ place.1 := behind place member
  rcases listed.stand place (List.mem_cons_of_mem _ member) with ⟨before', after', same, offsetEq⟩
  rw [List.append_assoc before'] at same
  rcases List.append_eq_append_iff.mp same with ⟨gap, before'Eq, afterEq⟩ | ⟨gap, beforeEq, restEq⟩
  · refine ⟨gap, after', by simp [afterEq], ?_⟩
    rw [before'Eq, List.length_append, List.length_append] at offsetEq
    omega
  · have asLong := congrArg List.length beforeEq
    simp only [List.length_append] at asLong
    have empty : gap = [] := List.eq_nil_of_length_eq_zero (by omega)
    subst empty
    exact ⟨[], after', by simpa using restEq.symm, by simp; omega⟩

/-- Quoting substrings loses nothing, and they are quoted where they stand. -/
theorem Substrings.quoteAt_covers (listed : Substrings text start found) :
    (quoteAt start found text).flatMap Segment.text = text ∧
      places Segment.text start (quoteAt start found text) = found := by
  induction found generalizing start text with
  | nil => exact ⟨flatMap_text_map_bare text, places_map_bare _ _ text⟩
  | cons place found ih =>
      rcases place with ⟨offset, span⟩
      rcases listed.stand _ List.mem_cons_self with ⟨before, after, rfl, rfl⟩
      rcases ih listed.tail with ⟨covers, placed⟩
      rw [quoteAt_cons]
      constructor
      · simp [covers, Segment.text]
      · rw [places_append, places_map_bare, flatMap_text_map_bare, List.nil_append, places]
        simp [placed, Segment.text, Segment.span?]

/-- The quoted segments of a text are substrings of it. -/
theorem substrings_places (start : Nat) (parts : List Segment) :
    Substrings (parts.flatMap Segment.text) start (places Segment.text start parts) := by
  constructor
  · intro place member
    rcases mem_places.mp member with ⟨left, right, rfl, offsetEq⟩
    exact ⟨left.flatMap Segment.text, right.flatMap Segment.text, by simp [Segment.text],
      offsetEq.symm⟩
  · induction parts generalizing start with
    | nil => exact List.Pairwise.nil
    | cons segment parts ih =>
        cases segment with
        | bare letter => exact ih (start + 1)
        | quoted span =>
            refine List.pairwise_cons.mpr ⟨?_, ih (start + span.length)⟩
            intro place member
            exact (bounds_of_mem_places member).1

theorem quoteAt_cons_bare (letter : Char) (text : Text)
    (behind : ∀ place ∈ found, start + 1 ≤ place.1) :
    quoteAt start found (letter :: text) = .bare letter :: quoteAt (start + 1) found text := by
  cases found with
  | nil => rfl
  | cons place found =>
      rcases place with ⟨offset, span⟩
      have far : start + 1 ≤ offset := behind (offset, span) List.mem_cons_self
      have gap : offset - start = offset - (start + 1) + 1 := by omega
      have skipped : offset - (start + 1) + 1 + span.length =
          offset - (start + 1) + span.length + 1 := by omega
      rw [quoteAt, quoteAt, gap, skipped, List.take_succ_cons, List.drop_succ_cons]
      rfl

/-- Segments are found again by the places of the quoted ones. -/
theorem quoteAt_places (start : Nat) (parts : List Segment) :
    quoteAt start (places Segment.text start parts) (parts.flatMap Segment.text) = parts := by
  induction parts generalizing start with
  | nil => rfl
  | cons segment parts ih =>
      cases segment with
      | bare letter =>
          have behind : ∀ place ∈ places Segment.text (start + 1) parts, start + 1 ≤ place.1 :=
            fun place member => (bounds_of_mem_places member).1
          exact (quoteAt_cons_bare letter _ behind).trans (congrArg _ (ih (start + 1)))
      | quoted span =>
          have here := quoteAt_cons start [] span (parts.flatMap Segment.text)
            (places Segment.text (start + span.length) parts)
          simp only [List.length_nil, Nat.add_zero, List.nil_append, List.map_nil] at here
          exact here.trans (congrArg _ (ih (start + span.length)))

theorem mem_found_of_mem_quoteAt (listed : Substrings text start found)
    (member : .quoted span ∈ quoteAt start found text) : ∃ offset, (offset, span) ∈ found := by
  rcases List.append_of_mem member with ⟨left, right, cut⟩
  refine ⟨start + (left.flatMap Segment.text).length, ?_⟩
  rw [← listed.quoteAt_covers.2]
  exact mem_places.mpr ⟨left, right, cut, rfl⟩

/-! ## The one list of spans -/

/-- Disjoint substrings of a text that are spans and leave each line settled. -/
structure Settling (text : Text) (found : List (Nat × Text)) : Prop where
  substrings : Substrings text 0 found
  spans : ∀ place ∈ found, IsSpan place.2
  settled : ∀ line ∈ (quoteAt 0 found text).splitOn (.bare '\n'), Settled line

/-- As spans hold no newlines, the lines with quoted substrings are the lines of the text. -/
theorem Settling.lines (settling : Settling text found) :
    ((quoteAt 0 found text).splitOn (.bare '\n')).map (List.flatMap Segment.text) =
      text.splitOn '\n' := by
  have alone : (Segment.bare '\n').text = ['\n'] := rfl
  conv_rhs => rw [← settling.substrings.quoteAt_covers.1]
  refine (Text.splitOn_flatMap alone ?_).symm
  intro segment member different
  cases segment with
  | bare letter =>
      intro isNewline
      apply different
      rw [List.mem_singleton.mp isNewline]
  | quoted span =>
      rcases mem_found_of_mem_quoteAt settling.substrings member with ⟨offset, inFound⟩
      exact (settling.spans _ inFound).newline_not_mem

theorem settling_iff : Settling text found ↔ found = matchesOf text := by
  constructor
  · intro settling
    rcases settling.substrings.quoteAt_covers with ⟨covers, placed⟩
    have quoted : ∀ span, .quoted span ∈ quoteAt 0 found text → IsSpan span := by
      intro span member
      rcases mem_found_of_mem_quoteAt settling.substrings member with ⟨offset, inFound⟩
      exact settling.spans _ inFound
    rw [matchesOf, ← (settled_lines_iff covers).mp ⟨quoted, settling.settled⟩, placed]
  · rintro rfl
    have cut : quoteAt 0 (matchesOf text) text = segments text := by
      have again := quoteAt_places 0 (segments text)
      rwa [flatMap_text_segments] at again
    have listed := substrings_places 0 (segments text)
    rw [flatMap_text_segments] at listed
    refine ⟨listed, ?_, ?_⟩
    · intro place member
      exact isSpan_of_mem_spans (mem_spans_of_mem_matchesOf member)
    · rw [cut]
      exact ((settled_lines_iff (flatMap_text_segments text)).mpr rfl).2

theorem map_snd_places (render : Segment → Text) (start : Nat) (parts : List Segment) :
    (places render start parts).map Prod.snd = parts.filterMap Segment.span? := by
  induction parts generalizing start with
  | nil => rfl
  | cons segment parts ih =>
      cases segment with
      | bare letter => exact ih (start + (render (.bare letter)).length)
      | quoted span =>
          exact congrArg (span :: ·) (ih (start + (render (.quoted span)).length))

/-! ## Texts that are not changed -/

theorem quotesOf_eq_empty_iff : quotesOf text = Quotes.empty ↔ spans text = [] := by
  constructor
  · intro isEmpty
    rw [List.eq_nil_iff_forall_not_mem]
    intro span member
    rcases exists_entry member with ⟨held, present⟩
    simp [isEmpty, Quotes.empty] at present
  · intro none
    rw [quotesOf, none]
    rfl

/-- Each entry that is hidden takes double quotes away, and no placeholder brings any. -/
theorem count_foldl_replace_le (entries : List (Text × Text))
    (spans : ∀ entry ∈ entries, entry.1 = placeholder entry.2 ∧ IsSpan entry.2) (held : Text) :
    (entries.foldl (fun held entry => Text.replace entry.2 entry.1 held) held).count '"' ≤
      held.count '"' := by
  induction entries generalizing held with
  | nil => exact le_refl _
  | cons entry entries ih =>
      rw [List.forall_mem_cons] at spans
      rcases spans with ⟨⟨keyEq, isSpan⟩, others⟩
      refine (ih others _).trans (Text.count_replace_le isSpan.ne_nil ?_ held)
      rw [keyEq]
      exact quote_not_mem_placeholder entry.2

/-- Shielding takes double quotes away as soon as there is a span. -/
theorem count_text_shield_lt (isIn : span ∈ spans text) :
    (shield text).text.count '"' < text.count '"' := by
  rcases exists_entry isIn with ⟨held, present⟩
  have entriesOf : ∀ entry ∈ (quotesOf text).entries,
      entry.1 = placeholder entry.2 ∧ entry.2 ∈ spans text := fun entry => mem_quotesOf
  rw [shield, hide]
  cases map : (quotesOf text).entries with
  | nil => simp [map] at present
  | cons entry entries =>
      rw [map, List.forall_mem_cons] at entriesOf
      rcases entriesOf with ⟨⟨keyEq, matched⟩, others⟩
      have isSpan := isSpan_of_mem_spans matched
      have fewer : (Text.replace entry.2 entry.1 text).count '"' < text.count '"' := by
        apply Text.count_replace_lt isSpan.ne_nil
        · rw [keyEq]
          exact quote_not_mem_placeholder entry.2
        · rcases isSpan.quotes with ⟨inner, quotes⟩
          simp [quotes]
        · exact infix_of_mem_spans matched
      have otherSpans : ∀ other ∈ entries, other.1 = placeholder other.2 ∧ IsSpan other.2 :=
        fun other member => (others other member).imp_right isSpan_of_mem_spans
      exact (count_foldl_replace_le entries otherSpans _).trans_lt fewer

theorem text_shield_eq_iff : (shield text).text = text ↔ spans text = [] := by
  constructor
  · intro same
    rw [List.eq_nil_iff_forall_not_mem]
    intro span isIn
    have fewer := count_text_shield_lt isIn
    rw [same] at fewer
    exact absurd fewer (lt_irrefl _)
  · intro none
    rw [shield, quotesOf_eq_empty_iff.mpr none]
    rfl

/-! ## Shielding by its matches -/

/-- What shielding collects.  The matched spans are the only disjoint substrings of the form of a
span that leave each line settled.  Their placeholders are the keys of the map, in ascending order,
each with the first span that has it.  A text without entries is one whose lines hold few double
quotes each, and no other text is left as it is. -/
theorem shield_collects_matches (text : Text) :
    (∀ found, Settling text found ↔ found = matchesOf text) ∧
      (∀ found, Settling text found →
        ((quoteAt 0 found text).splitOn (.bare '\n')).map (List.flatMap Segment.text) =
          text.splitOn '\n') ∧
      (matchesOf text).map Prod.snd = spans text ∧
      Quotes.Ascending (shield text).quotes.entries ∧
      (∀ key, key ∈ (shield text).quotes.entries.map Prod.fst ↔
        key ∈ (spans text).map placeholder) ∧
      (∀ entry ∈ (shield text).quotes.entries, entry.1 = placeholder entry.2 ∧
        (spans text).find? (fun span => placeholder span = entry.1) = some entry.2) ∧
      ((shield text).quotes = Quotes.empty ↔ ∀ line ∈ text.splitOn '\n', FewQuotes line) ∧
      ((shield text).text = text ↔ ∀ line ∈ text.splitOn '\n', FewQuotes line) := by
  refine ⟨fun _ => settling_iff, fun _ settling => settling.lines, map_snd_places _ 0 _,
    ascending_quotesOf text, ?_, ?_, ?_, ?_⟩
  · intro key
    constructor
    · intro isKey
      rcases List.mem_map.mp isKey with ⟨entry, member, rfl⟩
      rcases mem_quotesOf member with ⟨keyEq, isIn⟩
      exact List.mem_map.mpr ⟨entry.2, isIn, keyEq.symm⟩
    · intro isPlaceholder
      rcases List.mem_map.mp isPlaceholder with ⟨span, isIn, rfl⟩
      rcases exists_entry isIn with ⟨held, present⟩
      exact List.mem_map.mpr ⟨_, present, rfl⟩
  · intro entry member
    exact ⟨(mem_quotesOf member).1, mem_quotesOf_iff.mp member⟩
  · exact quotesOf_eq_empty_iff.trans spans_eq_nil_iff
  · exact text_shield_eq_iff.trans spans_eq_nil_iff

/-- A span around a double quote, two adjacent double quotes that are left, a span of nothing but
double quotes on the next line, and one more that is left. -/
theorem shield_collects_matches_sample :
    Settling (Text.lit "\"\"x\" \"\"\n\"\"\"a\"b")
        [(0, Text.lit "\"\"x\""), (8, Text.lit "\"\"\"")] ∧
      spans (Text.lit "\"\"x\" \"\"\n\"\"\"a\"b") =
        [Text.lit "\"\"x\"", Text.lit "\"\"\""] := by
  have matched : [(0, Text.lit "\"\"x\""), (8, Text.lit "\"\"\"")] =
      matchesOf (Text.lit "\"\"x\" \"\"\n\"\"\"a\"b") := by
    decide +kernel
  have collected := shield_collects_matches (Text.lit "\"\"x\" \"\"\n\"\"\"a\"b")
  exact ⟨(collected.1 _).mpr matched, by decide +kernel⟩

end RunLine.Quote
