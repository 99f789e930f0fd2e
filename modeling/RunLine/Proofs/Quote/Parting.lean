import RunLine.Proofs.Quote.RoundTrip
import RunLine.Proofs.Quote.Spelling

/-!
# A text parted at a bar

A bar outside of spans parts a text in two.  Spans are matched on each side as if the other were not
there, places on the right are counted from the bar, and what is read only at its places in the
whole is read only at its places on each side.
-/

namespace RunLine.Quote

/-! ## Places on both sides of a bare character -/

section Places

variable {render : Segment → Text} {start offset : Nat} {span : Text} {letter : Char}
variable {parts left right : List Segment}

/-- Places are counted from wherever the first segment starts. -/
theorem mem_places_add {shift : Nat} :
    (shift + offset, span) ∈ places render (shift + start) parts ↔
      (offset, span) ∈ places render start parts := by
  rw [mem_places, mem_places]
  constructor
  · rintro ⟨before, after, cut, offsetEq⟩
    exact ⟨before, after, cut, by omega⟩
  · rintro ⟨before, after, cut, offsetEq⟩
    exact ⟨before, after, cut, by omega⟩

theorem mem_places_append_bare (rendered : (render (.bare letter)).length = 1) :
    (offset, span) ∈ places render 0 (left ++ .bare letter :: right) ↔
      (offset, span) ∈ places render 0 left ∨
        (offset, span) ∈ places render ((left.flatMap render).length + 1) right := by
  rw [places_append, List.mem_append, places, rendered, Nat.zero_add]
  rfl

theorem mem_places_left (rendered : (render (.bare letter)).length = 1)
    (inLeft : offset ≤ (left.flatMap render).length) :
    (offset, span) ∈ places render 0 (left ++ .bare letter :: right) ↔
      (offset, span) ∈ places render 0 left := by
  rw [mem_places_append_bare rendered]
  constructor
  · rintro (placed | placed)
    · exact placed
    · have bounds := bounds_of_mem_places placed
      omega
  · exact Or.inl

theorem mem_places_right (rendered : (render (.bare letter)).length = 1) :
    ((left.flatMap render).length + 1 + offset, span) ∈
        places render 0 (left ++ .bare letter :: right) ↔
      (offset, span) ∈ places render 0 right := by
  rw [mem_places_append_bare rendered]
  constructor
  · rintro (placed | placed)
    · have bounds := bounds_of_mem_places placed
      omega
    · exact mem_places_add.mp placed
  · intro placed
    exact Or.inr (mem_places_add.mpr placed)

end Places

/-- What can be read on one side of a letter can be read there in the whole. -/
theorem prefix_drop_append_cons {word left right : Text} {letter : Char} {offset : Nat} :
    (offset < left.length → word <+: left.drop offset →
        word <+: (left ++ letter :: right).drop offset) ∧
      (word <+: right.drop offset →
        word <+: (left ++ letter :: right).drop (left.length + 1 + offset)) := by
  constructor
  · intro inLeft front
    rw [List.drop_append_of_le_length (Nat.le_of_lt inLeft)]
    exact front.trans (List.prefix_append _ _)
  · intro front
    have skipped : (left ++ letter :: right).drop (left.length + 1 + offset) =
        right.drop offset := by
      rw [Nat.add_assoc, List.drop_length_add_append, Nat.add_comm 1, List.drop_succ_cons]
    rwa [skipped]

/-- Where nothing but what was written is read in the whole, so it is on both sides. -/
theorem OnlyWritten.parts {entry : Text × Text} {left right : List Segment} {letter : Char}
    (only : OnlyWritten entry (left ++ .bare letter :: right)) :
    OnlyWritten entry left ∧ OnlyWritten entry right := by
  have shown : (left ++ .bare letter :: right).flatMap Segment.shown =
      left.flatMap Segment.shown ++ letter :: right.flatMap Segment.shown := by
    rw [List.flatMap_append, List.flatMap_cons]
    rfl
  rw [OnlyWritten, shown, List.length_append, List.length_cons] at only
  constructor
  · intro offset inRange front
    have placed := only offset (by omega) (prefix_drop_append_cons.1 inRange front)
    rwa [mem_places_left rfl (Nat.le_of_lt inRange)] at placed
  · intro offset inRange front
    have placed := only _ (by omega) (prefix_drop_append_cons.2 front)
    rwa [mem_places_right rfl] at placed

/-! ## A bar outside of spans -/

variable {first second : Text}

/-- Where every double quote of the first text belongs to one of its spans, no span reaches across
the bar. -/
theorem segments_append_bar (closed : .bare '"' ∉ segments first) :
    segments (first ++ '|' :: second) = segments first ++ .bare '|' :: segments second := by
  induction first using segments_induction with
  | nil =>
      apply segments_cons
      cases second with
      | nil => rfl
      | cons letter second => simp [spanAt?]
  | quoted span rest isSpan ih =>
      rw [segments_append isSpan] at closed ⊢
      rw [List.append_assoc, segments_append isSpan, ih fun inRest => closed (by simp [inRest])]
      rfl
  | bare letter rest absent ih =>
      rw [segments_cons absent] at closed ⊢
      have notQuote : letter ≠ '"' := by
        rintro rfl
        exact closed List.mem_cons_self
      have noSpan : spanAt? (letter :: (rest ++ '|' :: second)) = none := by
        cases rest with
        | nil => simp [spanAt?, notQuote]
        | cons next rest => simp [spanAt?, notQuote]
      rw [List.cons_append, segments_cons noSpan, ih fun inRest => closed (by simp [inRest])]
      rfl

theorem spans_append_bar (closed : .bare '"' ∉ segments first) :
    spans (first ++ '|' :: second) = spans first ++ spans second := by
  rw [spans, segments_append_bar closed, List.filterMap_append]
  rfl

/-! ## Conditions on a piece of a text -/

section Piece

variable {piece text : Text}

theorem Distinguished.mono (distinguished : Distinguished text)
    (subset : ∀ span ∈ spans piece, span ∈ spans text) : Distinguished piece := by
  intro one member other member' same
  exact distinguished one (subset one member) other (subset other member') same

/-- If distinct spans have distinct placeholders, entries of a piece are entries of the whole. -/
theorem Distinguished.mem_quotesOf_of_subset (distinguished : Distinguished text)
    (subset : ∀ span ∈ spans piece, span ∈ spans text) {entry : Text × Text}
    (member : entry ∈ (quotesOf piece).entries) : entry ∈ (quotesOf text).entries := by
  rcases Quote.mem_quotesOf member with ⟨keyEq, inPart⟩
  have inText := distinguished.mem_quotesOf (subset entry.2 inPart)
  rwa [← keyEq] at inText

theorem Fresh.mono (fresh : Fresh text) (distinguished : Distinguished text)
    (subset : ∀ span ∈ spans piece, span ∈ spans text) (inside : piece <:+: text) :
    Fresh piece := by
  intro entry member found
  exact fresh entry (distinguished.mem_quotesOf_of_subset subset member) (found.trans inside)

end Piece

end RunLine.Quote
