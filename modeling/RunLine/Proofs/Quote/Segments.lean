import Mathlib.Data.List.Infix
import RunLine.Quote.Shield

/-!
# The segments of a text

Cutting a text into spans and bare characters loses nothing, and it cuts out exactly the spans that
the form of a span allows: no two spans start at one place, so a text has one reading.  A segment is
read in two ways.  Its text is what it covers in the line; what is shown of it is a bare character
or the placeholder of a span.  Segments with the same text and the same showing are the same
segments, because a placeholder is never mistaken for the double quote that a span starts with.
-/

namespace RunLine.Quote

/-! ## The form of a span -/

/-- A double quote, one character on the same line, a run on that line without further double
quotes, and a double quote. -/
def IsSpan (span : Text) : Prop :=
  ∃ first run, span = '"' :: first :: (run ++ ['"']) ∧ first ≠ '\n' ∧ '"' ∉ run ∧ '\n' ∉ run

/-- A span starts and ends with a double quote. -/
theorem IsSpan.quotes {span : Text} (isSpan : IsSpan span) :
    ∃ inner, span = '"' :: (inner ++ ['"']) := by
  rcases isSpan with ⟨first, run, rfl, -, -, -⟩
  exact ⟨first :: run, rfl⟩

theorem IsSpan.ne_nil {span : Text} (isSpan : IsSpan span) : span ≠ [] := by
  rcases isSpan.quotes with ⟨inner, rfl⟩
  exact List.cons_ne_nil _ _

/-- The closing part of a span is everything up to the next double quote of the line. -/
theorem closing?_eq_some_iff {text tail : Text} :
    closing? text = some tail ↔
      ∃ run, tail = run ++ ['"'] ∧ '"' ∉ run ∧ '\n' ∉ run ∧ tail <+: text := by
  induction text generalizing tail with
  | nil =>
      constructor
      · intro found
        simp [closing?] at found
      · rintro ⟨run, rfl, -, -, front⟩
        simp at front
  | cons letter rest ih =>
      by_cases isQuote : letter = '"'
      · subst isQuote
        constructor
        · intro found
          simp only [closing?, if_true, Option.some.injEq] at found
          exact ⟨[], by simp [← found]⟩
        · rintro ⟨run, rfl, noQuote, -, front⟩
          cases run with
          | nil => simp [closing?]
          | cons first run =>
              rcases List.cons_prefix_cons.mp front with ⟨rfl, -⟩
              simp at noQuote
      · by_cases isNewline : letter = '\n'
        · subst isNewline
          constructor
          · intro found
            simp [closing?] at found
          · rintro ⟨run, rfl, -, noNewline, front⟩
            cases run with
            | nil => simp at front
            | cons first run =>
                rcases List.cons_prefix_cons.mp front with ⟨rfl, -⟩
                simp at noNewline
        · simp only [closing?, isQuote, isNewline, if_false, Option.map_eq_some_iff, ih]
          constructor
          · rintro ⟨inner, ⟨run, rfl, noQuote, noNewline, front⟩, rfl⟩
            refine ⟨letter :: run, rfl, ?_, ?_, (List.prefix_cons_inj letter).mpr front⟩
            · simpa [Ne.symm isQuote] using noQuote
            · simpa [Ne.symm isNewline] using noNewline
          · rintro ⟨run, rfl, noQuote, noNewline, front⟩
            cases run with
            | nil =>
                rcases List.cons_prefix_cons.mp front with ⟨rfl, -⟩
                exact absurd rfl isQuote
            | cons first run =>
                rcases List.cons_prefix_cons.mp front with ⟨rfl, inner⟩
                simp only [List.mem_cons, not_or] at noQuote noNewline
                exact ⟨run ++ ['"'], ⟨run, rfl, noQuote.2, noNewline.2, inner⟩, rfl⟩

/-- A span is found where a text starts with something of its form, and nowhere else. -/
theorem spanAt?_eq_some_iff {text span : Text} :
    spanAt? text = some span ↔ IsSpan span ∧ span <+: text := by
  constructor
  · intro found
    refine ⟨?_, spanAt?_starts found⟩
    unfold spanAt? at found
    split at found
    · next opening first rest =>
        split at found
        · next form =>
            rcases Option.map_eq_some_iff.mp found with ⟨inner, foundInner, rfl⟩
            rcases closing?_eq_some_iff.mp foundInner with ⟨run, rfl, noQuote, noNewline, -⟩
            exact ⟨first, run, by rw [form.1], form.2, noQuote, noNewline⟩
        · simp at found
    · simp at found
  · rintro ⟨⟨first, run, rfl, notNewline, noQuote, noNewline⟩, rest, rfl⟩
    have inner : closing? (run ++ ['"'] ++ rest) = some (run ++ ['"']) :=
      closing?_eq_some_iff.mpr ⟨run, rfl, noQuote, noNewline, List.prefix_append _ _⟩
    simp only [List.cons_append, spanAt?, notNewline, ne_eq, not_false_eq_true, and_self, if_true,
      inner, Option.map_some]

/-- At most one span starts at a place. -/
theorem IsSpan.unique {text span other : Text} (isSpan : IsSpan span) (otherIs : IsSpan other)
    (front : span <+: text) (otherFront : other <+: text) : span = other := by
  have found := spanAt?_eq_some_iff.mpr ⟨isSpan, front⟩
  rw [spanAt?_eq_some_iff.mpr ⟨otherIs, otherFront⟩] at found
  exact (Option.some.inj found).symm

/-! ## Cutting into segments -/

/-- A span at the front of a text is a segment of its own. -/
theorem segments_append {span : Text} (isSpan : IsSpan span) (rest : Text) :
    segments (span ++ rest) = .quoted span :: segments rest := by
  have found := spanAt?_eq_some_iff.mpr ⟨isSpan, List.prefix_append span rest⟩
  rcases isSpan.quotes with ⟨inner, rfl⟩
  rw [List.cons_append] at found ⊢
  rw [segments, segmentsAfter, found]
  simp [segmentsAfter_eq_drop]

/-- A character at which no span starts is bare. -/
theorem segments_cons {letter : Char} {rest : Text} (absent : spanAt? (letter :: rest) = none) :
    segments (letter :: rest) = .bare letter :: segments rest := by
  simp [segments, segmentsAfter, absent]

/-- A text starts with a span, or with a bare character, or it is empty. -/
@[elab_as_elim] theorem segments_induction {motive : Text → Prop} (nil : motive [])
    (quoted : ∀ span rest, IsSpan span → motive rest → motive (span ++ rest))
    (bare : ∀ letter rest, spanAt? (letter :: rest) = none → motive rest → motive (letter :: rest))
    (text : Text) : motive text := by
  induction sizeEq : text.length using Nat.strong_induction_on generalizing text with
  | _ size ih =>
      cases text with
      | nil => exact nil
      | cons letter rest =>
          cases found : spanAt? (letter :: rest) with
          | none => exact bare letter rest found (ih rest.length (by simp [← sizeEq]) rest rfl)
          | some span =>
              rcases spanAt?_eq_some_iff.mp found with ⟨isSpan, after, afterEq⟩
              have shorter : after.length < size := by
                have positive := List.length_pos_iff.mpr isSpan.ne_nil
                rw [← sizeEq, ← afterEq, List.length_append]
                omega
              rw [← afterEq]
              exact quoted span after isSpan (ih after.length shorter after rfl)

/-- Nothing is lost in cutting. -/
@[simp] theorem flatMap_text_segments (text : Text) :
    (segments text).flatMap Segment.text = text := by
  induction text using segments_induction with
  | nil => rfl
  | quoted span rest isSpan ih => simp [segments_append isSpan, ih, Segment.text]
  | bare letter rest absent ih => simp [segments_cons absent, ih, Segment.text]

/-- Only spans are cut out. -/
theorem isSpan_of_mem_segments {text span : Text} (member : .quoted span ∈ segments text) :
    IsSpan span := by
  induction text using segments_induction with
  | nil => simp [segments, segmentsAfter] at member
  | quoted front rest isSpan ih =>
      rw [segments_append isSpan, List.mem_cons] at member
      rcases member with same | inRest
      · rw [Segment.quoted.inj same]
        exact isSpan
      · exact ih inRest
  | bare letter rest absent ih =>
      rw [segments_cons absent, List.mem_cons] at member
      exact ih (by simpa using member)

theorem mem_filterMap_span? {segments : List Segment} {span : Text} :
    span ∈ segments.filterMap Segment.span? ↔ .quoted span ∈ segments := by
  rw [List.mem_filterMap]
  constructor
  · rintro ⟨segment, member, spanEq⟩
    cases segment with
    | bare letter => simp [Segment.span?] at spanEq
    | quoted other =>
        simp only [Segment.span?, Option.some.injEq] at spanEq
        rwa [← spanEq]
  · intro member
    exact ⟨.quoted span, member, rfl⟩

theorem mem_spans {text span : Text} : span ∈ spans text ↔ .quoted span ∈ segments text :=
  mem_filterMap_span?

theorem isSpan_of_mem_spans {text span : Text} (member : span ∈ spans text) : IsSpan span :=
  isSpan_of_mem_segments (mem_spans.mp member)

/-- A span stands in its text. -/
theorem infix_of_mem_spans {text span : Text} (member : span ∈ spans text) : span <:+: text := by
  rcases List.append_of_mem (mem_spans.mp member) with ⟨left, right, cut⟩
  refine ⟨left.flatMap Segment.text, right.flatMap Segment.text, ?_⟩
  have whole := flatMap_text_segments text
  rw [cut] at whole
  simpa [Segment.text] using whole

theorem spans_of_quoteless {text : Text} (quoteless : '"' ∉ text) : spans text = [] := by
  rw [List.eq_nil_iff_forall_not_mem]
  intro span member
  rcases (isSpan_of_mem_spans member).quotes with ⟨inner, rfl⟩
  exact quoteless ((infix_of_mem_spans member).subset List.mem_cons_self)

theorem shield_of_quoteless {text : Text} (quoteless : '"' ∉ text) :
    shield text = ⟨text, Quotes.empty⟩ := by
  rw [shield, quotesOf, spans_of_quoteless quoteless]
  rfl

/-! ## What is shown -/

/-- A bare character as it is, and a span by its placeholder. -/
def Segment.shown : Segment → Text
  | bare letter => [letter]
  | quoted span => placeholder span

/-- A placeholder consists of hexadecimal digits. -/
theorem not_mem_placeholder {letter : Char} (noDigit : Text.digitValue? letter = none)
    (span : Text) : letter ∉ placeholder span := by
  intro member
  have digit := Hex.isSome_digitValue?_of_mem_encode member
  simp [noDigit] at digit

theorem quote_not_mem_placeholder (span : Text) : '"' ∉ placeholder span :=
  not_mem_placeholder (by decide) span

theorem placeholder_ne_nil (span : Text) : placeholder span ≠ [] := by
  rw [← List.length_pos_iff, length_placeholder]
  omega

theorem Segment.shown_ne_nil (segment : Segment) : segment.shown ≠ [] := by
  cases segment with
  | bare letter => exact List.cons_ne_nil _ _
  | quoted span => exact placeholder_ne_nil span

@[simp] theorem flatMap_shown_map_bare (text : Text) :
    (text.map Segment.bare).flatMap Segment.shown = text := by
  induction text with
  | nil => rfl
  | cons letter rest ih => simp [Segment.shown, ih]

@[simp] theorem flatMap_text_map_bare (text : Text) :
    (text.map Segment.bare).flatMap Segment.text = text := by
  induction text with
  | nil => rfl
  | cons letter rest ih => simp [Segment.text, ih]

/-- A bare character and a span that cover the same text are told apart by what is shown, because a
placeholder does not start with the double quote of its span. -/
theorem bare_ne_quoted {letter : Char} {span : Text} {left right : List Segment}
    (isSpan : IsSpan span)
    (sameText : (Segment.bare letter :: left).flatMap Segment.text =
      (Segment.quoted span :: right).flatMap Segment.text) :
    (Segment.bare letter :: left).flatMap Segment.shown ≠
      (Segment.quoted span :: right).flatMap Segment.shown := by
  intro sameShown
  rcases isSpan.quotes with ⟨inner, rfl⟩
  simp only [List.flatMap_cons, Segment.text, List.cons_append, List.nil_append,
    List.cons.injEq] at sameText
  simp only [List.flatMap_cons, Segment.shown, List.cons_append, List.nil_append] at sameShown
  rcases sameText with ⟨rfl, -⟩
  rcases List.cons_eq_append_iff.mp sameShown with ⟨empty, -⟩ | ⟨tail, placeholderEq, -⟩
  · exact placeholder_ne_nil _ empty
  · apply quote_not_mem_placeholder ('"' :: (inner ++ ['"']))
    rw [placeholderEq]
    exact List.mem_cons_self

/-- Segments that cover the same text and show the same are the same. -/
theorem eq_of_flatMap_shown_eq {left right : List Segment}
    (leftSpans : ∀ span, .quoted span ∈ left → IsSpan span)
    (rightSpans : ∀ span, .quoted span ∈ right → IsSpan span)
    (sameText : left.flatMap Segment.text = right.flatMap Segment.text)
    (sameShown : left.flatMap Segment.shown = right.flatMap Segment.shown) : left = right := by
  induction left generalizing right with
  | nil =>
      cases right with
      | nil => rfl
      | cons other right => simp [Segment.shown_ne_nil] at sameShown
  | cons segment left ih =>
      cases right with
      | nil => simp [Segment.shown_ne_nil] at sameShown
      | cons other right =>
          have tails := @ih right (fun span member => leftSpans span (by simp [member]))
            (fun span member => rightSpans span (by simp [member]))
          cases segment with
          | bare letter =>
              cases other with
              | bare letter' =>
                  simp only [List.flatMap_cons, Segment.text, List.cons_append, List.nil_append,
                    List.cons.injEq] at sameText
                  simp only [List.flatMap_cons, Segment.shown, List.cons_append, List.nil_append,
                    List.cons.injEq] at sameShown
                  rw [sameText.1, tails sameText.2 sameShown.2]
              | quoted span =>
                  exact absurd sameShown (bare_ne_quoted (rightSpans span (by simp)) sameText)
          | quoted span =>
              cases other with
              | bare letter =>
                  exact absurd sameShown.symm
                    (bare_ne_quoted (leftSpans span (by simp)) sameText.symm)
              | quoted span' =>
                  simp only [List.flatMap_cons, Segment.text] at sameText
                  have otherFront : span' <+: span ++ left.flatMap Segment.text := by
                    rw [sameText]
                    exact List.prefix_append _ _
                  have sameSpan : span = span' :=
                    (leftSpans span (by simp)).unique (rightSpans span' (by simp))
                      (List.prefix_append _ _) otherFront
                  subst sameSpan
                  simp only [List.flatMap_cons, Segment.shown] at sameShown
                  rw [tails (List.append_cancel_left sameText) (List.append_cancel_left sameShown)]

/-! ## Places -/

/-- The spans among segments, each with the offset at which its rendering starts. -/
def places (render : Segment → Text) : Nat → List Segment → List (Nat × Text)
  | _, [] => []
  | offset, segment :: rest =>
      (segment.span?.map fun span => (offset, span)).toList ++
        places render (offset + (render segment).length) rest

/-- The spans of a text, each with the offset at which it was matched. -/
def matchesOf (text : Text) : List (Nat × Text) := places Segment.text 0 (segments text)

theorem mem_places {render : Segment → Text} {start offset : Nat} {span : Text}
    {segments : List Segment} :
    (offset, span) ∈ places render start segments ↔
      ∃ left right, segments = left ++ .quoted span :: right ∧
        offset = start + (left.flatMap render).length := by
  induction segments generalizing start with
  | nil => simp [places]
  | cons segment rest ih =>
      rw [places, List.mem_append, ih]
      constructor
      · rintro (here | ⟨left, right, rfl, rfl⟩)
        · cases segment with
          | bare letter => simp [Segment.span?] at here
          | quoted other =>
              simp only [Segment.span?, Option.map_some, Option.toList_some, List.mem_singleton,
                Prod.mk.injEq] at here
              exact ⟨[], rest, by simp [here.2], by simp [here.1]⟩
        · refine ⟨segment :: left, right, rfl, ?_⟩
          simp only [List.flatMap_cons, List.length_append]
          omega
      · rintro ⟨left, right, cut, rfl⟩
        cases left with
        | nil =>
            left
            obtain ⟨rfl, rfl⟩ : segment = .quoted span ∧ rest = right := by simpa using cut
            simp [Segment.span?]
        | cons first left =>
            right
            obtain ⟨rfl, rfl⟩ : segment = first ∧ rest = left ++ .quoted span :: right := by
              simpa using cut
            refine ⟨left, right, rfl, ?_⟩
            simp only [List.flatMap_cons, List.length_append]
            omega

theorem places_append (render : Segment → Text) (start : Nat) (left right : List Segment) :
    places render start (left ++ right) =
      places render start left ++
        places render (start + (left.flatMap render).length) right := by
  induction left generalizing start with
  | nil => simp [places]
  | cons segment left ih =>
      simp [places, ih, Nat.add_assoc]

theorem places_map_bare (render : Segment → Text) (start : Nat) (text : Text) :
    places render start (text.map .bare) = [] := by
  induction text generalizing start with
  | nil => rfl
  | cons letter text ih => simp [places, ih, Segment.span?]

theorem bounds_of_mem_places {render : Segment → Text} {start offset : Nat} {span : Text}
    {parts : List Segment} (placed : (offset, span) ∈ places render start parts) :
    start ≤ offset ∧ offset ≤ start + (parts.flatMap render).length := by
  rcases mem_places.mp placed with ⟨before, after, rfl, rfl⟩
  rw [List.flatMap_append, List.length_append]
  omega

theorem mem_spans_of_mem_matchesOf {text : Text} {place : Nat × Text}
    (matched : place ∈ matchesOf text) : place.2 ∈ spans text := by
  rcases mem_places.mp matched with ⟨left, right, cut, -⟩
  apply mem_spans.mpr
  rw [cut]
  simp

/-- A matched span can be read where it was matched. -/
theorem prefix_of_mem_matchesOf {text : Text} {place : Nat × Text}
    (matched : place ∈ matchesOf text) : place.2 <+: text.drop place.1 := by
  rcases mem_places.mp matched with ⟨left, right, cut, startEq⟩
  have read := flatMap_text_segments text
  rw [cut, List.flatMap_append, List.flatMap_cons] at read
  rw [startEq, ← read, Nat.zero_add, List.drop_left]
  exact List.prefix_append _ _

end RunLine.Quote
