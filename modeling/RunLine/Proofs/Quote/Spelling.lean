import RunLine.Proofs.Quote.Written

/-!
# Spelling out spans

While shielding is under way the spans of some entries are still pending: they stand in the text
character by character.  Spelling out undoes writing, and it leaves every other span where it was.
A run of bare characters that spells a span is therefore a place where the span can be read in the
text, and conversely unless a written span is in the way.
-/

namespace RunLine.Quote

/-! ## Spelling out what is not yet written -/

/-- A segment when the spans of pending entries are still spelled out. -/
def spellOne (pending : List (Text × Text)) : Segment → List Segment
  | .bare letter => [.bare letter]
  | .quoted span =>
      if span ∈ pending.map Prod.snd then span.map .bare else [.quoted span]

/-- Segments in which the spans of pending entries are still spelled out. -/
def spell (pending : List (Text × Text)) (segments : List Segment) : List Segment :=
  segments.flatMap (spellOne pending)

variable {pending : List (Text × Text)} {parts : List Segment} {text span : Text}

@[simp] theorem spell_nil (parts : List Segment) : spell [] parts = parts := by
  induction parts with
  | nil => rfl
  | cons segment rest ih =>
      rw [spell, List.flatMap_cons, ← spell, ih]
      cases segment <;> simp [spellOne]

@[simp] theorem flatMap_text_spellOne (segment : Segment) :
    (spellOne pending segment).flatMap Segment.text = segment.text := by
  cases segment with
  | bare letter => simp [spellOne]
  | quoted span =>
      simp only [spellOne]
      split
      · exact flatMap_text_map_bare span
      · simp

@[simp] theorem flatMap_text_spell (parts : List Segment) :
    (spell pending parts).flatMap Segment.text = parts.flatMap Segment.text := by
  induction parts with
  | nil => rfl
  | cons segment rest ih =>
      rw [spell, List.flatMap_cons, ← spell, List.flatMap_append, ih, flatMap_text_spellOne,
        List.flatMap_cons]

/-- Where all spans are pending, the text is spelled out. -/
theorem spell_of_pending (allPending : ∀ span, .quoted span ∈ parts →
    span ∈ pending.map Prod.snd) :
    spell pending parts = (parts.flatMap Segment.text).map .bare := by
  induction parts with
  | nil => rfl
  | cons segment rest ih =>
      rw [spell, List.flatMap_cons, ← spell,
        ih (fun span member => allPending span (by simp [member])),
        List.flatMap_cons, List.map_append]
      cases segment with
      | bare letter => rfl
      | quoted span => simp only [spellOne, allPending span (by simp), if_true, Segment.text]

/-- What is left written covers some text. -/
theorem text_ne_nil_of_mem_spellOne {item segment : Segment}
    (spans : ∀ span, item = .quoted span → IsSpan span)
    (member : segment ∈ spellOne pending item) : segment.text ≠ [] := by
  cases segment with
  | bare letter => exact List.cons_ne_nil _ _
  | quoted span =>
      apply IsSpan.ne_nil
      apply spans
      cases item with
      | bare letter => simp [spellOne] at member
      | quoted other =>
          simp only [spellOne] at member
          split at member
          · simp at member
          · exact (List.mem_singleton.mp member).symm

theorem places_spellOne (start : Nat) (segment : Segment) :
    places Segment.text start (spellOne pending segment) =
      (places Segment.text start [segment]).filter fun place =>
        decide (place.2 ∉ pending.map Prod.snd) := by
  cases segment with
  | bare letter => rfl
  | quoted span =>
      by_cases isPending : span ∈ pending.map Prod.snd
      · simp only [spellOne, isPending, if_true, places_map_bare]
        simp [places, Segment.span?, isPending]
      · simp only [spellOne, isPending, if_false]
        simp [places, Segment.span?, isPending]

/-- The spans that are not pending stand where they were. -/
theorem places_spell (start : Nat) (parts : List Segment) :
    places Segment.text start (spell pending parts) =
      (places Segment.text start parts).filter fun place =>
        decide (place.2 ∉ pending.map Prod.snd) := by
  induction parts generalizing start with
  | nil => rfl
  | cons segment rest ih =>
      have whole : places Segment.text start (segment :: rest) =
          places Segment.text start [segment] ++
            places Segment.text (start + segment.text.length) rest := by
        simpa using places_append Segment.text start [segment] rest
      rw [spell, List.flatMap_cons, ← spell, places_append, flatMap_text_spellOne, ih,
        places_spellOne, whole, List.filter_append]

theorem mem_places_spell {start : Nat} {place : Nat × Text} :
    place ∈ places Segment.text start (spell pending parts) ↔
      place ∈ places Segment.text start parts ∧ place.2 ∉ pending.map Prod.snd := by
  rw [places_spell, List.mem_filter, decide_eq_true_iff]

theorem spell_of_not_pending {parts : List Segment}
    (written : ∀ span, .quoted span ∈ parts → span ∉ pending.map Prod.snd) :
    spell pending parts = parts := by
  induction parts with
  | nil => rfl
  | cons part rest ih =>
      rw [spell, List.flatMap_cons, ← spell, ih fun span member => written span (by simp [member])]
      cases part with
      | bare letter => rfl
      | quoted span =>
          have notPending := written span (by simp)
          simp only [spellOne, notPending, if_false, List.cons_append, List.nil_append]

/-- Spelling out undoes writing. -/
theorem spell_write (isSpan : IsSpan span) (isPending : span ∈ pending.map Prod.snd)
    (parts : List Segment) : spell pending (write span parts) = spell pending parts := by
  apply Text.flatMap_replace_of_eq (map_bare_ne_nil isSpan)
  have bareKept : (span.map Segment.bare).flatMap (spellOne pending) = span.map .bare := by
    apply spell_of_not_pending
    intro other member
    simp at member
  rw [bareKept]
  simp only [List.flatMap_cons, List.flatMap_nil, List.append_nil, spellOne, isPending, if_true]

theorem spell_writeAll {entries : List (Text × Text)}
    (isPending : ∀ entry ∈ entries, IsSpan entry.2 ∧ entry.2 ∈ pending.map Prod.snd)
    (parts : List Segment) : spell pending (writeAll entries parts) = spell pending parts := by
  induction entries generalizing parts with
  | nil => rfl
  | cons entry entries ih =>
      rw [writeAll, List.foldl_cons, ← writeAll,
        ih fun other member => isPending other (by simp [member])]
      exact spell_write (isPending entry (by simp)).1 (isPending entry (by simp)).2 parts

/-! ## Bare runs -/

/-- A run of bare characters and a written span do not overlap. -/
theorem run_beside_span {before after left right : List Segment} {run other : Text}
    (same : before ++ run.map .bare ++ after = left ++ .quoted other :: right) :
    (before.flatMap Segment.text).length + run.length ≤ (left.flatMap Segment.text).length ∨
      (left.flatMap Segment.text).length + other.length ≤ (before.flatMap Segment.text).length := by
  have notBare : Segment.quoted other ∉ run.map Segment.bare := by simp
  rcases Text.occurrence_beside same notBare with ⟨gap, rfl, -⟩ | ⟨gap, rfl, -⟩
  · left
    simp only [List.flatMap_append, List.length_append, flatMap_text_map_bare]
    omega
  · right
    simp only [List.flatMap_append, List.flatMap_cons, List.length_append, Segment.text]
    omega

/-- What can be read at the front, without meeting a written span, is spelled by bare characters. -/
theorem map_bare_prefix_of_beside {run : Text} (front : run <+: parts.flatMap Segment.text)
    (beside : ∀ left other right, parts = left ++ .quoted other :: right →
      run.length ≤ (left.flatMap Segment.text).length) :
    run.map .bare <+: parts := by
  induction parts generalizing run with
  | nil =>
      have empty : run = [] := by simpa using front
      simp [empty]
  | cons segment rest ih =>
      cases run with
      | nil => exact List.nil_prefix
      | cons first run =>
          cases segment with
          | bare letter =>
              rw [List.flatMap_cons] at front
              rcases List.cons_prefix_cons.mp front with ⟨rfl, inner⟩
              apply (List.prefix_cons_inj _).mpr
              apply ih inner
              intro left other right cut
              have outer := beside (.bare first :: left) other right (by simp [cut])
              simpa [Segment.text] using outer
          | quoted other => simpa using beside [] other rest rfl

/-- What can be read, without meeting a written span, is spelled by bare characters. -/
theorem exists_run_of_beside {run before after : Text}
    (spans : ∀ span, .quoted span ∈ parts → span ≠ [])
    (read : parts.flatMap Segment.text = before ++ run ++ after)
    (beside : ∀ left other right, parts = left ++ .quoted other :: right →
      before.length + run.length ≤ (left.flatMap Segment.text).length ∨
        (left.flatMap Segment.text).length + other.length ≤ before.length) :
    ∃ left right, parts = left ++ run.map .bare ++ right ∧
      left.flatMap Segment.text = before := by
  induction parts generalizing before with
  | nil =>
      have empty : before = [] ∧ run = [] ∧ after = [] := by simpa using read.symm
      exact ⟨[], [], by simp [empty.2.1], by simp [empty.1]⟩
  | cons segment rest ih =>
      have tail := fun before' =>
        @ih before' (fun span member => spans span (by simp [member]))
      cases before with
      | nil =>
          have front : run.map .bare <+: segment :: rest := by
            apply map_bare_prefix_of_beside (read ▸ List.prefix_append run after)
            intro left other right cut
            have nonempty := List.length_pos_iff.mpr (spans other (by simp [cut]))
            have split := beside left other right cut
            simp only [List.length_nil, Nat.zero_add] at split
            omega
          rcases front with ⟨right, rightEq⟩
          exact ⟨[], right, by simpa using rightEq.symm, rfl⟩
      | cons first before =>
          cases segment with
          | bare letter =>
              rw [List.flatMap_cons] at read
              have heads : letter = first ∧
                  rest.flatMap Segment.text = before ++ run ++ after := by
                simpa [Segment.text] using read
              rcases heads with ⟨rfl, restRead⟩
              have restBeside : ∀ left other right, rest = left ++ .quoted other :: right →
                  before.length + run.length ≤ (left.flatMap Segment.text).length ∨
                    (left.flatMap Segment.text).length + other.length ≤ before.length := by
                intro left other right cut
                have outer := beside (.bare letter :: left) other right (by simp [cut])
                simp only [List.flatMap_cons, Segment.text, List.length_append, List.length_cons,
                  List.length_nil] at outer
                omega
              rcases tail before restRead restBeside with ⟨left, right, cut, leftEq⟩
              exact ⟨.bare letter :: left, right, by simp [cut], by simp [Segment.text, leftEq]⟩
          | quoted other =>
              have covered : other <+: first :: before := by
                rw [List.flatMap_cons, List.append_assoc] at read
                apply List.prefix_of_prefix_length_le (List.prefix_append other _)
                  (read ▸ List.prefix_append (first :: before) _)
                have split := beside [] other rest rfl
                simp only [List.length_cons, List.flatMap_nil, List.length_nil] at split ⊢
                omega
              rcases covered with ⟨before', beforeEq⟩
              rw [← beforeEq] at read beside ⊢
              have restRead : rest.flatMap Segment.text = before' ++ run ++ after := by
                simpa [Segment.text] using read
              have restBeside : ∀ left other right, rest = left ++ .quoted other :: right →
                  before'.length + run.length ≤ (left.flatMap Segment.text).length ∨
                    (left.flatMap Segment.text).length + other.length ≤ before'.length := by
                intro left other' right cut
                have outer := beside (.quoted other :: left) other' right (by simp [cut])
                simp only [List.flatMap_cons, Segment.text, List.length_append] at outer
                omega
              rcases tail before' restRead restBeside with ⟨left, right, cut, leftEq⟩
              exact ⟨.quoted other :: left, right, by simp [cut], by simp [Segment.text, leftEq]⟩

/-- Writing a span takes every run that spells it, unless it takes one that starts before the run
and overlaps it. -/
theorem exists_place_of_run (isSpan : IsSpan span) (before after : List Segment) :
    ∃ start, (start, span) ∈
        places Segment.text 0 (write span (before ++ span.map .bare ++ after)) ∧
      start ≤ (before.flatMap Segment.text).length ∧
      (before.flatMap Segment.text).length < start + span.length := by
  have occurrence : before ++ span.map .bare ++ after = before ++ span.map .bare ++ after := rfl
  rcases Text.exists_taken (map_bare_ne_nil isSpan) [.quoted span] occurrence with
    ⟨left, right, cut, ⟨gap, rfl⟩, overlaps, outcome⟩
  have leftText := flatMap_text_write isSpan left
  refine ⟨(left.flatMap Segment.text).length, ?_, ?_, ?_⟩
  · apply mem_places.mpr
    refine ⟨write span left, write span right, ?_, ?_⟩
    · rw [write, outcome, write, write]
      simp
    · rw [leftText, Nat.zero_add]
  · simp
  · have gapShort : gap.length < (span.map Segment.bare).length := by
      rw [List.length_append] at overlaps
      omega
    have gapFront : gap <+: span.map Segment.bare := by
      simp only [List.append_assoc] at cut
      have inTail : gap <+: span.map Segment.bare ++ right := by
        rw [← List.append_cancel_left cut]
        exact List.prefix_append _ _
      exact List.prefix_of_prefix_length_le inTail (List.prefix_append _ right) (le_of_lt gapShort)
    rcases List.prefix_map_iff.mp gapFront with ⟨word, wordFront, rfl⟩
    rw [List.length_map, List.length_map] at gapShort
    rw [List.flatMap_append, List.length_append, flatMap_text_map_bare]
    omega

end RunLine.Quote
