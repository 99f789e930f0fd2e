import RunLine.Proofs.Quote.Written

/-!
# Putting quotes back

Restoring substitutes spans for placeholders, entry by entry through the whole text.  If every
placeholder that can be read was written, the substitutions take exactly the written placeholders:
a span put back starts and ends with a double quote, so no placeholder is read across its ends, and
a placeholder within it would have occurred in the text from the start.  The invariant of that
argument does not mention the order of the entries, so every order restores the same text.
-/

namespace RunLine.Quote

/-! ## Reading only what was written -/

/-- Wherever the placeholder of an entry can be read in what segments show, the entry was
written. -/
def OnlyWritten (entry : Text × Text) (segments : List Segment) : Prop :=
  ∀ offset < (segments.flatMap Segment.shown).length,
    entry.1 <+: (segments.flatMap Segment.shown).drop offset →
      (offset, entry.2) ∈ places Segment.shown 0 segments

instance (entry : Text × Text) (segments : List Segment) : Decidable (OnlyWritten entry segments) :=
  inferInstanceAs (Decidable (∀ offset < (segments.flatMap Segment.shown).length,
    entry.1 <+: (segments.flatMap Segment.shown).drop offset →
      (offset, entry.2) ∈ places Segment.shown 0 segments))

variable {entry : Text × Text} {segments left right : List Segment} {span : Text}

theorem onlyWritten_iff (proper : entry.1 ≠ []) :
    OnlyWritten entry segments ↔
      ∀ before after, segments.flatMap Segment.shown = before ++ entry.1 ++ after →
        ∃ left right, segments = left ++ .quoted entry.2 :: right ∧
          left.flatMap Segment.shown = before := by
  constructor
  · intro only before after read
    have positive := List.length_pos_iff.mpr proper
    have inRange : before.length < (segments.flatMap Segment.shown).length := by
      rw [read]
      simp only [List.length_append]
      omega
    have front : entry.1 <+: (segments.flatMap Segment.shown).drop before.length := by
      rw [read, List.append_assoc, List.drop_left]
      exact List.prefix_append _ _
    rcases mem_places.mp (only before.length inRange front) with ⟨left, right, rfl, lengthEq⟩
    refine ⟨left, right, rfl, ?_⟩
    rw [List.flatMap_append, List.append_assoc] at read
    exact List.append_inj_left read (by simpa using lengthEq.symm)
  · intro cuts offset inRange front
    rcases front with ⟨after, afterEq⟩
    have read : segments.flatMap Segment.shown =
        (segments.flatMap Segment.shown).take offset ++ entry.1 ++ after := by
      rw [List.append_assoc, afterEq, List.take_append_drop]
    rcases cuts _ after read with ⟨left, right, cut, leftEq⟩
    refine mem_places.mpr ⟨left, right, cut, ?_⟩
    rw [leftEq, List.length_take]
    omega

/-- Fewer segments show less. -/
theorem length_shown_lt {segment : Segment} (front : left ++ [segment] <+: right) :
    (left.flatMap Segment.shown).length < (right.flatMap Segment.shown).length := by
  rcases front with ⟨rest, rfl⟩
  have positive := List.length_pos_iff.mpr segment.shown_ne_nil
  simp only [List.flatMap_append, List.flatMap_cons, List.flatMap_nil, List.length_append,
    List.append_nil]
  omega

/-- Putting one span back makes no placeholder readable that was not written. -/
theorem OnlyWritten.expand (only : OnlyWritten entry (left ++ .quoted span :: right))
    (keyEq : entry.1 = placeholder entry.2) (isSpan : IsSpan span) (absent : ¬ entry.1 <:+: span) :
    OnlyWritten entry (left ++ span.map .bare ++ right) := by
  have proper : entry.1 ≠ [] := keyEq ▸ placeholder_ne_nil entry.2
  have noQuote : '"' ∉ entry.1 := keyEq ▸ quote_not_mem_placeholder entry.2
  have positive := List.length_pos_iff.mpr proper
  rw [onlyWritten_iff proper] at only ⊢
  intro before after read
  rcases isSpan.quotes with ⟨inner, spanEq⟩
  have readBeside : before ++ entry.1 ++ after = left.flatMap Segment.shown ++
      '"' :: (inner ++ '"' :: right.flatMap Segment.shown) := by
    rw [← read, List.flatMap_append, List.flatMap_append, flatMap_shown_map_bare, spanEq]
    simp
  rcases Text.occurrence_beside readBeside noQuote with ⟨gap, leftEq, -⟩ | ⟨gap, beforeEq, restEq⟩
  · -- The placeholder is read before the span.
    have readLeft : (left ++ .quoted span :: right).flatMap Segment.shown =
        before ++ entry.1 ++ (gap ++ (Segment.quoted span :: right).flatMap Segment.shown) := by
      rw [List.flatMap_append, leftEq]
      simp
    rcases only before _ readLeft with ⟨left', right', cut, left'Eq⟩
    rcases Text.append_cons_eq_append_cons cut with ⟨rfl, -, -⟩ | later | ⟨rest, rfl⟩
    · rw [left'Eq] at leftEq
      have lengths := congrArg List.length leftEq
      simp only [List.length_append] at lengths
      omega
    · have lengths := length_shown_lt later
      rw [left'Eq, leftEq] at lengths
      simp only [List.length_append] at lengths
      omega
    · exact ⟨left', rest ++ span.map .bare ++ right, by simp, left'Eq⟩
  · rcases Text.occurrence_beside restEq.symm noQuote with
      ⟨gap', innerEq, -⟩ | ⟨gap', gapEq, rightEq⟩
    · -- It would be read within the span.
      exfalso
      apply absent
      refine ⟨'"' :: gap, gap' ++ ['"'], ?_⟩
      rw [spanEq, innerEq]
      simp
    · -- It is read after the span.
      have readRight : (left ++ .quoted span :: right).flatMap Segment.shown =
          left.flatMap Segment.shown ++ placeholder span ++ gap' ++ entry.1 ++ after := by
        rw [List.flatMap_append, List.flatMap_cons, rightEq]
        simp [Segment.shown]
      rcases only _ after readRight with ⟨left', right', cut, left'Eq⟩
      have longer : (left.flatMap Segment.shown).length < (left'.flatMap Segment.shown).length := by
        rw [left'Eq]
        simp only [List.length_append, length_placeholder]
        omega
      rcases Text.append_cons_eq_append_cons cut with ⟨rfl, -, -⟩ | ⟨rest, rfl⟩ | earlier
      · omega
      · refine ⟨left ++ span.map .bare ++ rest, right', ?_, ?_⟩
        · have tail : right = rest ++ .quoted entry.2 :: right' := by simpa using cut
          simp [tail]
        · have restShown : rest.flatMap Segment.shown = gap' := by
            simpa [Segment.shown] using left'Eq
          rw [beforeEq, gapEq, List.flatMap_append, List.flatMap_append, restShown,
            flatMap_shown_map_bare, spanEq]
          simp
      · have shorter := length_shown_lt earlier
        omega

/-! ## One substitution -/

/-- The segments with a span put back wherever it was written. -/
def unwrite (span : Text) (segments : List Segment) : List Segment :=
  Text.replace [.quoted span] (span.map .bare) segments

theorem flatMap_text_unwrite (span : Text) (segments : List Segment) :
    (unwrite span segments).flatMap Segment.text = segments.flatMap Segment.text := by
  apply Text.flatMap_replace_of_eq (List.cons_ne_nil _ _)
  rw [flatMap_text_map_bare]
  simp [Segment.text]

theorem mem_unwrite {other : Text} (member : .quoted other ∈ unwrite span segments) :
    .quoted other ∈ segments ∧ other ≠ span := by
  have proper : [Segment.quoted span] ≠ [] := List.cons_ne_nil _ _
  unfold unwrite at member
  induction segments using Text.replace_induction proper with
  | nil => simp [proper] at member
  | taken rest ih =>
      rw [Text.replace_append proper, List.mem_append] at member
      have inRest := ih (by simpa using member)
      exact ⟨by simp [inRest.1], inRest.2⟩
  | kept segment rest absent ih =>
      rw [Text.replace_cons proper _ absent, List.mem_cons] at member
      rcases member with rfl | inRest
      · refine ⟨by simp, ?_⟩
        rintro rfl
        simp at absent
      · exact ⟨by simp [ih inRest], (ih inRest).2⟩

/-- Putting a span back wherever it was written makes no placeholder readable. -/
theorem OnlyWritten.unwrite (only : OnlyWritten entry segments)
    (keyEq : entry.1 = placeholder entry.2) (isSpan : IsSpan span) (absent : ¬ entry.1 <:+: span) :
    OnlyWritten entry (Quote.unwrite span segments) := by
  have proper : [Segment.quoted span] ≠ [] := List.cons_ne_nil _ _
  -- The invariant covers what was passed already, with its spans put back.
  suffices general : ∀ passed, OnlyWritten entry (passed ++ segments) →
      OnlyWritten entry (passed ++ Quote.unwrite span segments) from general [] only
  clear only
  unfold Quote.unwrite
  induction segments using Text.replace_induction proper with
  | nil =>
      intro passed only
      rwa [Text.replace_nil proper]
  | taken rest ih =>
      intro passed only
      rw [Text.replace_append proper, ← List.append_assoc]
      exact ih _ (only.expand keyEq isSpan absent)
  | kept segment rest notHere ih =>
      intro passed only
      rw [Text.replace_cons proper _ notHere, List.append_cons]
      apply ih
      rwa [← List.append_cons]

/-- A written placeholder is read as a whole. -/
theorem OnlyWritten.readWhole (only : OnlyWritten entry segments)
    (keyEq : entry.1 = placeholder entry.2) :
    Text.ReadWhole Segment.shown [.quoted entry.2] segments := by
  have proper : entry.1 ≠ [] := keyEq ▸ placeholder_ne_nil entry.2
  intro left part right before after cut partEq nonempty front
  have patternEq : [Segment.quoted entry.2].flatMap Segment.shown = entry.1 := by
    simp [Segment.shown, keyEq]
  rw [patternEq] at front
  rcases front with ⟨rest, restEq⟩
  have read : segments.flatMap Segment.shown =
      left.flatMap Segment.shown ++ before ++ entry.1 ++ rest := by
    rw [cut, List.flatMap_append, List.flatMap_cons, partEq]
    simp [restEq]
  rcases (onlyWritten_iff proper).mp only _ rest read with ⟨left', right', cut', left'Eq⟩
  have positive := List.length_pos_iff.mpr nonempty
  have partLength := congrArg List.length partEq
  rw [List.length_append] at partLength
  rw [cut] at cut'
  rcases Text.append_cons_eq_append_cons cut' with ⟨rfl, rfl, rfl⟩ | ⟨gap, rfl⟩ | later
  · exact ⟨by simpa using left'Eq, by simp⟩
  · have lengths := congrArg List.length left'Eq
    simp only [List.flatMap_append, List.flatMap_cons, List.flatMap_nil, List.length_append,
      List.append_nil] at lengths
    omega
  · have lengths := length_shown_lt later
    rw [left'Eq, List.length_append] at lengths
    omega

theorem flatMap_shown_unwrite (only : OnlyWritten entry segments)
    (keyEq : entry.1 = placeholder entry.2) :
    (unwrite entry.2 segments).flatMap Segment.shown =
      Text.replace entry.1 entry.2 (segments.flatMap Segment.shown) := by
  have patternEq : [Segment.quoted entry.2].flatMap Segment.shown = entry.1 := by
    simp [Segment.shown, keyEq]
  have proper : [Segment.quoted entry.2].flatMap Segment.shown ≠ [] := by
    rw [patternEq, keyEq]
    exact placeholder_ne_nil entry.2
  rw [unwrite, Text.flatMap_replace proper _ (only.readWhole keyEq), patternEq,
    flatMap_shown_map_bare]

/-! ## All substitutions -/

/-- What entries need to restore what segments show: each is a span under its own placeholder, no
placeholder occurs in a span, whatever was written has an entry, and nothing else is read. -/
structure Restores (entries : List (Text × Text)) (segments : List Segment) : Prop where
  sound : ∀ entry ∈ entries, entry.1 = placeholder entry.2 ∧ IsSpan entry.2
  clear : ∀ entry ∈ entries, ∀ other ∈ entries, ¬ entry.1 <:+: other.2
  covered : ∀ span, .quoted span ∈ segments → ∃ entry ∈ entries, entry.2 = span
  only : ∀ entry ∈ entries, OnlyWritten entry segments

namespace Restores

variable {entries order : List (Text × Text)}

theorem perm (restores : Restores entries segments) (reordered : order.Perm entries) :
    Restores order segments where
  sound entry member := restores.sound entry (reordered.mem_iff.mp member)
  clear entry member other member' :=
    restores.clear entry (reordered.mem_iff.mp member) other (reordered.mem_iff.mp member')
  covered span member := by
    rcases restores.covered span member with ⟨entry, held, same⟩
    exact ⟨entry, reordered.mem_iff.mpr held, same⟩
  only entry member := restores.only entry (reordered.mem_iff.mp member)

/-- After one entry the others restore the rest. -/
theorem step (restores : Restores (entry :: entries) segments) :
    Restores entries (unwrite entry.2 segments) where
  sound other member := restores.sound other (by simp [member])
  clear other member other' member' :=
    restores.clear other (by simp [member]) other' (by simp [member'])
  covered span member := by
    rcases mem_unwrite member with ⟨present, different⟩
    rcases restores.covered span present with ⟨other, held, rfl⟩
    rcases List.mem_cons.mp held with rfl | inRest
    · exact absurd rfl different
    · exact ⟨other, inRest, rfl⟩
  only other member :=
    (restores.only other (by simp [member])).unwrite (restores.sound other (by simp [member])).1
      (restores.sound entry (by simp)).2 (restores.clear other (by simp [member]) entry (by simp))

/-- The entries take what segments show to what they cover. -/
theorem foldl_replace (restores : Restores entries segments) :
    entries.foldl (fun held entry => Text.replace entry.1 entry.2 held)
        (segments.flatMap Segment.shown) = segments.flatMap Segment.text := by
  induction entries generalizing segments with
  | nil =>
      apply List.flatMap_congr
      intro segment member
      cases segment with
      | bare letter => rfl
      | quoted span => simpa using restores.covered span member
  | cons entry entries ih =>
      have keyEq := (restores.sound entry (by simp)).1
      have only := restores.only entry (by simp)
      rw [List.foldl_cons, ← flatMap_shown_unwrite only keyEq, ih restores.step,
        flatMap_text_unwrite]

end Restores

/-- The entries of a fresh text restore segments in which nothing but its placeholders is read. -/
theorem Fresh.restores {text : Text} (fresh : Fresh text)
    (covered : ∀ span, .quoted span ∈ segments → ∃ entry ∈ (quotesOf text).entries, entry.2 = span)
    (only : ∀ entry ∈ (quotesOf text).entries, OnlyWritten entry segments) :
    Restores (quotesOf text).entries segments where
  sound _ member := ⟨(mem_quotesOf member).1, isSpan_of_mem_quotesOf member⟩
  clear _ member _ member' := fresh.not_infix_span member (mem_quotesOf member').2
  covered := covered
  only := only

/-! ## The round trip -/

/-- In whatever order the entries are substituted, the text comes back. -/
theorem foldl_replace_shield {text : Text} (fresh : Fresh text)
    (only : ∀ entry ∈ (shield text).quotes.entries, OnlyWritten entry (written text))
    {order : List (Text × Text)} (reordered : order.Perm (shield text).quotes.entries) :
    order.foldl (fun held entry => Text.replace entry.1 entry.2 held) (shield text).text =
      text := by
  have restores := fresh.restores (fun span member => mem_written member) only
  rw [← flatMap_shown_written fresh, (restores.perm reordered).foldl_replace,
    flatMap_text_written]

theorem restore_shield {text : Text} (fresh : Fresh text)
    (only : ∀ entry ∈ (shield text).quotes.entries, OnlyWritten entry (written text)) :
    restore (shield text).quotes (shield text).text = text :=
  foldl_replace_shield fresh only (List.Perm.refl _)

/-- Shielding is undone by its entries in every order: if no placeholder of the map occurs in the
text, and each is read in the shielded text only where it was written, then substituting the spans
for their placeholders one after another gives the text back, whichever entry comes first. -/
theorem restore_shield_in_any_order {text : Text} (fresh : Fresh text)
    (only : ∀ entry ∈ (shield text).quotes.entries, OnlyWritten entry (written text)) :
    (written text).flatMap Segment.shown = (shield text).text ∧
      restore (shield text).quotes (shield text).text = text ∧
      ∀ order : List (Text × Text), order.Perm (shield text).quotes.entries →
        order.foldl (fun held entry => Text.replace entry.1 entry.2 held) (shield text).text =
          text :=
  ⟨flatMap_shown_written fresh, restore_shield fresh only,
    fun _ reordered => foldl_replace_shield fresh only reordered⟩

/-- The blank between the first two spans is read as the third one, whose placeholder is the
smallest, so two of the three matched spans are not what is written. -/
theorem restore_shield_overlapping :
    Fresh (Text.lit "\"a\" \"b\" \" \"") ∧
      (∀ entry ∈ (shield (Text.lit "\"a\" \"b\" \" \"")).quotes.entries,
        OnlyWritten entry (written (Text.lit "\"a\" \"b\" \" \""))) ∧
      restore (shield (Text.lit "\"a\" \"b\" \" \"")).quotes
          (shield (Text.lit "\"a\" \"b\" \" \"")).text =
        Text.lit "\"a\" \"b\" \" \"" := by
  have fresh : Fresh (Text.lit "\"a\" \"b\" \" \"") := by decide +kernel
  have only : ∀ entry ∈ (shield (Text.lit "\"a\" \"b\" \" \"")).quotes.entries,
      OnlyWritten entry (written (Text.lit "\"a\" \"b\" \" \"")) := by decide +kernel
  exact ⟨fresh, only, (restore_shield_in_any_order fresh only).2.1⟩

end RunLine.Quote
