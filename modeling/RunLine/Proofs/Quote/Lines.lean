import RunLine.Proofs.Quote.Segments
import RunLine.Proofs.Text.Cutting
import RunLine.Proofs.Text.Substitution

/-!
# Spans line by line

A span never reaches over the end of a line, so spans are matched in each line by itself.  Within a
line the first double quote that is left opens a span whenever any later one can close it.
Therefore the double quotes outside of spans are all behind the last span of their line, where at
most one is left, or two that are adjacent.  Conversely a text can be read in one way only such that
this is so.
-/

namespace RunLine.Quote

/-! ## Lines without spans -/

/-- A line that holds at most one double quote, or exactly two that are adjacent. -/
def FewQuotes (line : Text) : Prop :=
  line.count '"' ≤ 1 ∨ line.count '"' = 2 ∧ ['"', '"'] <:+: line

instance (line : Text) : Decidable (FewQuotes line) :=
  inferInstanceAs (Decidable (line.count '"' ≤ 1 ∨ line.count '"' = 2 ∧ ['"', '"'] <:+: line))

theorem fewQuotes_cons_of_ne {letter : Char} (different : letter ≠ '"') (line : Text) :
    FewQuotes (letter :: line) ↔ FewQuotes line := by
  have notHere : ¬ ['"', '"'] <+: letter :: line := by
    rintro ⟨rest, read⟩
    exact different (List.cons.inj read).1.symm
  simp [FewQuotes, List.infix_cons_iff, notHere, different]

/-- Behind its first double quote such a line holds none, but for one directly behind it. -/
theorem fewQuotes_cons_quote (line : Text) : FewQuotes ('"' :: line) ↔ '"' ∉ line.tail := by
  cases line with
  | nil => simp [FewQuotes]
  | cons letter line =>
      by_cases isQuote : letter = '"'
      · subst isQuote
        have here : ['"', '"'] <+: '"' :: '"' :: line := ⟨line, rfl⟩
        simp [FewQuotes, List.infix_cons_iff, here, List.count_eq_zero]
      · have beyond : ['"', '"'] <:+: '"' :: letter :: line → ['"', '"'] <:+: line := by
          simp [List.infix_cons_iff, List.cons_prefix_cons, Ne.symm isQuote]
        have quotes : ('"' :: letter :: line).count '"' = line.count '"' + 1 := by
          simp [isQuote]
        rw [List.tail_cons, ← List.count_eq_zero, FewQuotes, quotes]
        constructor
        · rintro (few | ⟨two, inside⟩)
          · omega
          · have twice : 2 ≤ line.count '"' := (beyond inside).count_le '"'
            omega
        · intro none
          exact Or.inl (by omega)

theorem fewQuotes_of_not_mem {line : Text} (absent : '"' ∉ line) : FewQuotes line :=
  Or.inl (by rw [List.count_eq_zero.mpr absent]; exact Nat.zero_le 1)

/-- Letters other than double quotes in front do not matter. -/
theorem fewQuotes_append {front : Text} (absent : '"' ∉ front) (line : Text) :
    FewQuotes (front ++ line) ↔ FewQuotes line := by
  induction front with
  | nil => rfl
  | cons letter front ih =>
      rw [List.mem_cons, not_or] at absent
      rw [List.cons_append, fewQuotes_cons_of_ne (Ne.symm absent.1), ih absent.2]

theorem FewQuotes.tail {letter : Char} {line : Text} (few : FewQuotes (letter :: line)) :
    FewQuotes line := by
  by_cases isQuote : letter = '"'
  · subst isQuote
    rw [fewQuotes_cons_quote] at few
    cases line with
    | nil => exact fewQuotes_of_not_mem List.not_mem_nil
    | cons next line =>
        rw [List.tail_cons] at few
        by_cases isQuote : next = '"'
        · subst isQuote
          exact (fewQuotes_cons_quote line).mpr fun inTail => few (List.mem_of_mem_tail inTail)
        · exact (fewQuotes_cons_of_ne isQuote line).mpr (fewQuotes_of_not_mem few)
  · exact (fewQuotes_cons_of_ne isQuote line).mp few

/-! ## One line -/

section Line

variable {line rest : Text} {letter : Char}

theorem spanAt?_of_ne_quote (different : letter ≠ '"') (rest : Text) :
    spanAt? (letter :: rest) = none := by
  cases rest with
  | nil => rfl
  | cons next rest => simp [spanAt?, different]

/-- No span starts in a line with few double quotes. -/
theorem spanAt?_of_fewQuotes (few : FewQuotes (letter :: rest)) :
    spanAt? (letter :: rest) = none := by
  by_cases isQuote : letter = '"'
  · subst isQuote
    rw [fewQuotes_cons_quote] at few
    rw [Option.eq_none_iff_forall_ne_some]
    intro span found
    rcases spanAt?_eq_some_iff.mp found with ⟨⟨first, run, rfl, -, -, -⟩, after, read⟩
    simp only [List.cons_append, List.cons.injEq, true_and] at read
    apply few
    simp [← read]
  · exact spanAt?_of_ne_quote isQuote rest

/-- On one line a double quote opens a span as soon as there is one to close it. -/
theorem fewQuotes_of_spanAt? (oneLine : '\n' ∉ rest) (noSpan : spanAt? ('"' :: rest) = none) :
    FewQuotes ('"' :: rest) := by
  rw [fewQuotes_cons_quote]
  intro closes
  cases rest with
  | nil => simp at closes
  | cons first rest =>
      rcases List.eq_append_cons_of_mem closes with ⟨run, after, rfl, noQuote⟩
      simp only [List.mem_cons, List.mem_append, not_or] at oneLine
      have isSpan : IsSpan ('"' :: first :: (run ++ ['"'])) :=
        ⟨first, run, rfl, Ne.symm oneLine.1, noQuote, oneLine.2.1⟩
      have found := spanAt?_eq_some_iff.mpr
        ⟨isSpan, show _ <+: '"' :: first :: (run ++ '"' :: after) from ⟨after, by simp⟩⟩
      rw [noSpan] at found
      simp at found

theorem segments_of_fewQuotes (few : FewQuotes line) : segments line = line.map .bare := by
  induction line with
  | nil => rfl
  | cons letter line ih => rw [segments_cons (spanAt?_of_fewQuotes few), ih few.tail, List.map_cons]

/-- The double quotes of a line outside of its spans: none before or between the spans, and few
behind the last one. -/
structure Settled (line : List Segment) : Prop where
  before : ∀ left span right, line = left ++ .quoted span :: right → .bare '"' ∉ left
  after : ∀ (left : List Segment) (rest : Text), line = left ++ rest.map .bare →
    (left = [] ∨ ∃ front span, left = front ++ [.quoted span]) → FewQuotes rest

theorem quoted_not_mem_map_bare (span text : Text) : .quoted span ∉ text.map Segment.bare := by
  simp

/-- A line up to its last span, and what follows. -/
theorem exists_last_span (line : List Segment) :
    ∃ (left : List Segment) (rest : Text), line = left ++ rest.map .bare ∧
      (left = [] ∨ ∃ front span, left = front ++ [.quoted span]) := by
  induction line with
  | nil => exact ⟨[], [], rfl, Or.inl rfl⟩
  | cons segment line ih =>
      rcases ih with ⟨left, rest, rfl, rfl | ⟨front, span, rfl⟩⟩
      · cases segment with
        | bare letter => exact ⟨[], letter :: rest, rfl, Or.inl rfl⟩
        | quoted span => exact ⟨[.quoted span], rest, rfl, Or.inr ⟨[], span, rfl⟩⟩
      · exact ⟨segment :: (front ++ [.quoted span]), rest, rfl,
          Or.inr ⟨segment :: front, span, rfl⟩⟩

/-- Where a line is cut behind all of its spans, bare letters stand between its last span and the
cut. -/
theorem exists_gap {closed left : List Segment} {rest rest' : Text}
    (same : closed ++ rest.map .bare = left ++ rest'.map .bare)
    (last : left = [] ∨ ∃ front span, left = front ++ [.quoted span]) :
    ∃ gap : Text, closed = left ++ gap.map .bare ∧ rest' = gap ++ rest := by
  have injective : Function.Injective (List.map Segment.bare) :=
    List.map_injective_iff.mpr fun _ _ => Segment.bare.inj
  rcases List.append_eq_append_iff.mp same with ⟨gap, leftEq, restEq⟩ | ⟨gap, closedEq, restEq⟩
  · rcases List.eq_nil_or_concat gap with rfl | ⟨initial, segment, rfl⟩
    · refine ⟨[], by simp [leftEq], ?_⟩
      exact injective (by simpa using restEq.symm)
    · exfalso
      rw [List.concat_eq_append] at leftEq restEq
      rcases last with rfl | ⟨front, span, rfl⟩
      · simp at leftEq
      · rw [← List.append_assoc] at leftEq
        have isSpan : .quoted span = segment := by
          simpa using (List.append_inj' leftEq rfl).2
        apply quoted_not_mem_map_bare span rest
        simp [restEq, isSpan]
  · rcases List.map_eq_append_iff.mp restEq with ⟨gap', others, rfl, rfl, others'⟩
    exact ⟨gap', closedEq, by rw [injective others']⟩

/-- A settled line is cut in two: all of its spans without a double quote beside them, and a rest
with few double quotes. -/
theorem settled_iff {line : List Segment} :
    Settled line ↔ ∃ (closed : List Segment) (rest : Text),
      line = closed ++ rest.map .bare ∧ .bare '"' ∉ closed ∧ FewQuotes rest := by
  constructor
  · intro settled
    rcases exists_last_span line with ⟨left, rest, cut, last⟩
    refine ⟨left, rest, cut, ?_, settled.after left rest cut last⟩
    rcases last with rfl | ⟨front, span, rfl⟩
    · exact List.not_mem_nil
    · have inFront := settled.before front span (rest.map .bare) (by simp [cut])
      simpa using inFront
  · rintro ⟨closed, rest, rfl, noQuote, few⟩
    constructor
    · intro left span right same
      rcases List.append_eq_append_iff.mp same with ⟨gap, -, restEq⟩ | ⟨gap, closedEq, -⟩
      · exact absurd (by simp [restEq]) (quoted_not_mem_map_bare span rest)
      · intro inLeft
        exact noQuote (by simp [closedEq, inLeft])
    · intro left rest' same last
      rcases exists_gap same last with ⟨gap, rfl, rfl⟩
      refine (fewQuotes_append ?_ rest).mpr few
      intro inGap
      exact noQuote (List.mem_append_right _ (List.mem_map_of_mem inGap))

/-- Spans without a double quote beside them are matched, whatever follows. -/
theorem segments_append_of_closed {closed : List Segment}
    (spans : ∀ span, .quoted span ∈ closed → IsSpan span) (noQuote : .bare '"' ∉ closed)
    (rest : Text) :
    segments (closed.flatMap Segment.text ++ rest) = closed ++ segments rest := by
  induction closed with
  | nil => rfl
  | cons segment closed ih =>
      rw [List.mem_cons, not_or] at noQuote
      have tail := ih (fun span member => spans span (List.mem_cons_of_mem _ member)) noQuote.2
      rw [List.flatMap_cons, List.append_assoc, List.cons_append]
      cases segment with
      | quoted span =>
          rw [Segment.text, segments_append (spans span List.mem_cons_self), tail]
      | bare letter =>
          have notQuote : letter ≠ '"' := by
            rintro rfl
            exact noQuote.1 rfl
          rw [Segment.text, List.singleton_append,
            segments_cons (spanAt?_of_ne_quote notQuote _), tail]

/-- A settled line is read as its spans are matched. -/
theorem Settled.segments_eq {line : List Segment} (settled : Settled line)
    (spans : ∀ span, .quoted span ∈ line → IsSpan span) :
    segments (line.flatMap Segment.text) = line := by
  rcases settled_iff.mp settled with ⟨closed, rest, rfl, noQuote, few⟩
  rw [List.flatMap_append, flatMap_text_map_bare, segments_append_of_closed _ noQuote,
    segments_of_fewQuotes few]
  exact fun span member => spans span (List.mem_append_left _ member)

/-- The matched spans of a line leave it settled. -/
theorem settled_segments (oneLine : '\n' ∉ line) : Settled (segments line) := by
  rw [settled_iff]
  induction line using segments_induction with
  | nil => exact ⟨[], [], rfl, List.not_mem_nil, fewQuotes_of_not_mem List.not_mem_nil⟩
  | quoted span rest isSpan ih =>
      rw [List.mem_append, not_or] at oneLine
      rcases ih oneLine.2 with ⟨closed, open', cut, noQuote, few⟩
      exact ⟨.quoted span :: closed, open', by simp [segments_append isSpan, cut],
        by simpa using noQuote, few⟩
  | bare letter rest absent ih =>
      rw [List.mem_cons, not_or] at oneLine
      by_cases isQuote : letter = '"'
      · subst isQuote
        have few := fewQuotes_of_spanAt? oneLine.2 absent
        exact ⟨[], '"' :: rest, segments_of_fewQuotes few, List.not_mem_nil, few⟩
      · rcases ih oneLine.2 with ⟨closed, open', cut, noQuote, few⟩
        exact ⟨.bare letter :: closed, open', by simp [segments_cons absent, cut],
          by simpa [Ne.symm isQuote] using noQuote, few⟩

end Line

/-! ## A text of lines -/

section Lines

variable {text span : Text}

theorem IsSpan.newline_not_mem (isSpan : IsSpan span) : '\n' ∉ span := by
  rcases isSpan with ⟨first, run, rfl, notNewline, -, noNewline⟩
  simp [Ne.symm notNewline, noNewline]

/-- Spans are matched in each line as if the others were not there. -/
theorem segments_append_newline (left right : Text) :
    segments (left ++ '\n' :: right) = segments left ++ .bare '\n' :: segments right := by
  induction left using segments_induction with
  | nil => exact segments_cons (spanAt?_of_ne_quote (by decide) right)
  | quoted span rest isSpan ih =>
      rw [List.append_assoc, segments_append isSpan, segments_append isSpan, ih]
      rfl
  | bare letter rest absent ih =>
      have noSpan : spanAt? (letter :: (rest ++ '\n' :: right)) = none := by
        rw [Option.eq_none_iff_forall_ne_some]
        intro span found
        rcases spanAt?_eq_some_iff.mp found with ⟨isSpan, after, read⟩
        rw [← List.cons_append, ← List.nil_append span] at read
        rcases Text.occurrence_beside read isSpan.newline_not_mem with
          ⟨gap, leftEq, -⟩ | ⟨gap, beforeEq, -⟩
        · have inRest := spanAt?_eq_some_iff.mpr
            ⟨isSpan, show span <+: letter :: rest from ⟨gap, by simp [leftEq]⟩⟩
          rw [absent] at inRest
          simp at inRest
        · simp at beforeEq
      rw [List.cons_append, segments_cons noSpan, segments_cons absent, ih, List.cons_append]

theorem newline_not_mem_segments (absent : '\n' ∉ text) : .bare '\n' ∉ segments text := by
  intro member
  apply absent
  rw [← flatMap_text_segments text]
  exact List.mem_flatMap.mpr ⟨_, member, List.mem_singleton_self _⟩

/-- The lines of the segments are the segments of the lines. -/
theorem splitOn_segments (text : Text) :
    (segments text).splitOn (.bare '\n') = (text.splitOn '\n').map segments :=
  Text.splitOn_of_parted segments_append_newline (fun _ => newline_not_mem_segments) text

/-- A text can be read in one way only such that all that is quoted are spans and every line is
settled. -/
theorem settled_lines_iff {parts : List Segment} (covers : parts.flatMap Segment.text = text) :
    ((∀ span, .quoted span ∈ parts → IsSpan span) ∧
        ∀ line ∈ parts.splitOn (.bare '\n'), Settled line) ↔
      parts = segments text := by
  constructor
  · rintro ⟨spans, settled⟩
    have lines : [Segment.bare '\n'].intercalate (parts.splitOn (.bare '\n')) = parts :=
      List.intercalate_splitOn _
    have matched : (parts.splitOn (.bare '\n')).map (segments ∘ List.flatMap Segment.text) =
        parts.splitOn (.bare '\n') := by
      conv_rhs => rw [← List.map_id (parts.splitOn (.bare '\n'))]
      apply List.map_congr_left
      intro line isLine
      exact (settled line isLine).segments_eq fun span member =>
        spans span (Text.mem_of_mem_splitOn isLine member)
    calc
      parts = [Segment.bare '\n'].intercalate
          ((parts.splitOn (.bare '\n')).map (segments ∘ List.flatMap Segment.text)) := by
        rw [matched, lines]
      _ = segments (['\n'].intercalate
          ((parts.splitOn (.bare '\n')).map (List.flatMap Segment.text))) := by
        rw [Text.intercalate_of_parted segments_append_newline rfl, List.map_map]
      _ = segments text := by
        rw [← covers]
        conv_rhs => rw [← lines, Text.flatMap_intercalate]
        rfl
  · rintro rfl
    refine ⟨fun span => isSpan_of_mem_segments, ?_⟩
    intro line isLine
    rw [splitOn_segments] at isLine
    rcases List.mem_map.mp isLine with ⟨piece, isPiece, rfl⟩
    exact settled_segments (Text.separator_not_mem_of_mem_splitOn isPiece)

theorem eq_map_bare_of_no_spans {parts : List Segment} (none : ∀ span, .quoted span ∉ parts) :
    parts = (parts.flatMap Segment.text).map .bare := by
  induction parts with
  | nil => rfl
  | cons segment parts ih =>
      have tail := ih fun span member => none span (List.mem_cons_of_mem _ member)
      cases segment with
      | bare letter =>
          rw [List.flatMap_cons, List.map_append, ← tail]
          rfl
      | quoted span => exact absurd List.mem_cons_self (none span)

/-- A text has no spans if and only if each of its lines holds few double quotes. -/
theorem spans_eq_nil_iff :
    spans text = [] ↔ ∀ line ∈ text.splitOn '\n', FewQuotes line := by
  simp only [List.eq_nil_iff_forall_not_mem, mem_spans]
  constructor
  · intro none line isLine
    have isPiece : segments line ∈ (segments text).splitOn (.bare '\n') := by
      rw [splitOn_segments]
      exact List.mem_map_of_mem isLine
    have bare : segments line = line.map .bare := by
      have noSpans := eq_map_bare_of_no_spans fun span (member : .quoted span ∈ segments line) =>
        none span (Text.mem_of_mem_splitOn isPiece member)
      rwa [flatMap_text_segments] at noSpans
    have settled := settled_segments (Text.separator_not_mem_of_mem_splitOn isLine)
    exact settled.after [] line bare (Or.inl rfl)
  · intro few span member
    have whole : [Segment.bare '\n'].intercalate ((text.splitOn '\n').map segments) =
        segments text := by
      rw [← splitOn_segments]
      exact List.intercalate_splitOn _
    rw [← whole] at member
    rcases Text.mem_intercalate member with isNewline | ⟨piece, isPiece, inPiece⟩
    · simp at isNewline
    · rcases List.mem_map.mp isPiece with ⟨line, isLine, rfl⟩
      rw [segments_of_fewQuotes (few line isLine)] at inPiece
      exact quoted_not_mem_map_bare span line inPiece

end Lines

end RunLine.Quote
