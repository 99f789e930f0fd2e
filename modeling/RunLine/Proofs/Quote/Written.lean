import RunLine.Proofs.Quote.Entries
import RunLine.Proofs.Text.Substitution

/-!
# Where placeholders are written

Shielding substitutes in the whole text, so a placeholder can come to stand where no span was
matched.  The segments here record where it was written: they are obtained by the same
substitutions, entry by entry in the same order, with a span taken out of bare characters instead of
a placeholder put in.  What they cover is always the text itself.  What they show is the shielded
text, as long as no placeholder occurs in the text from the start.
-/

namespace RunLine.Quote

/-- The segments with every run of bare characters that spells the span taken for the span, from
left to right. -/
def write (span : Text) (segments : List Segment) : List Segment :=
  Text.replace (span.map .bare) [.quoted span] segments

/-- The segments with the spans of entries written one after another. -/
def writeAll (entries : List (Text × Text)) (segments : List Segment) : List Segment :=
  entries.foldl (fun held entry => write entry.2 held) segments

/-- The segments that shielding makes of a text. -/
def written (text : Text) : List Segment := writeAll (quotesOf text).entries (text.map .bare)

theorem map_bare_ne_nil {span : Text} (isSpan : IsSpan span) : span.map Segment.bare ≠ [] := by
  simpa using isSpan.ne_nil

/-! ## One substitution -/

theorem flatMap_text_write {span : Text} (isSpan : IsSpan span) (segments : List Segment) :
    (write span segments).flatMap Segment.text = segments.flatMap Segment.text := by
  apply Text.flatMap_replace_of_eq (map_bare_ne_nil isSpan)
  rw [flatMap_text_map_bare]
  simp [Segment.text]

theorem mem_write {span : Text} (isSpan : IsSpan span) {segments : List Segment} {other : Text}
    (member : .quoted other ∈ write span segments) : other = span ∨ .quoted other ∈ segments := by
  rcases Text.mem_replace (map_bare_ne_nil isSpan) member with new | old
  · left
    simpa using new
  · exact Or.inr old

/-- A word that ends with a double quote is read only where it is spelled by bare characters. -/
theorem map_bare_prefix {word : Text} {segments : List Segment}
    (front : word ++ ['"'] <+: segments.flatMap Segment.shown)
    (clear : ∀ other, .quoted other ∈ segments → ¬ placeholder other <:+: word ++ ['"']) :
    (word ++ ['"']).map Segment.bare <+: segments := by
  induction segments generalizing word with
  | nil => simp at front
  | cons segment rest ih =>
      cases segment with
      | bare letter =>
          simp only [List.flatMap_cons, Segment.shown, List.cons_append, List.nil_append] at front
          cases word with
          | nil =>
              rcases List.cons_prefix_cons.mp front with ⟨rfl, -⟩
              simp
          | cons first word =>
              rcases List.cons_prefix_cons.mp front with ⟨rfl, inner⟩
              apply (List.prefix_cons_inj _).mpr
              apply ih inner
              intro other member inside
              exact clear other (by simp [member]) (List.infix_cons inside)
      | quoted other =>
          exfalso
          have placeholderFront :
              placeholder other <+: (Segment.quoted other :: rest).flatMap Segment.shown :=
            List.prefix_append _ _
          rcases List.prefix_or_prefix_of_prefix front placeholderFront with short | long
          · exact quote_not_mem_placeholder other (short.subset (by simp))
          · exact clear other (by simp) long.isInfix

/-- A span is never read across a placeholder. -/
theorem readWhole_span {span : Text} (isSpan : IsSpan span) {segments : List Segment}
    (clear : ∀ other, .quoted other ∈ segments → ¬ placeholder other <:+: span) :
    Text.ReadWhole Segment.shown (span.map .bare) segments := by
  intro left part right before after cut partEq nonempty front
  rw [flatMap_shown_map_bare] at front
  rcases isSpan.quotes with ⟨inner, spanEq⟩
  cases part with
  | bare letter =>
      have beforeNil : before = [] := by
        cases before with
        | nil => rfl
        | cons first before =>
            simp only [Segment.shown, List.cons_append, List.cons.injEq] at partEq
            exact absurd (List.append_eq_nil_iff.mp partEq.2.symm).2 nonempty
      subst beforeNil
      refine ⟨rfl, ?_⟩
      have shownFront : span <+: (Segment.bare letter :: right).flatMap Segment.shown := by
        rw [List.flatMap_cons, partEq]
        exact front
      rw [spanEq, ← List.cons_append] at shownFront clear ⊢
      apply map_bare_prefix shownFront
      intro other member
      exact clear other (by rw [cut]; simp at member; simp [member])
  | quoted other =>
      exfalso
      cases after with
      | nil => exact nonempty rfl
      | cons first after =>
          rw [spanEq] at front
          rcases List.cons_prefix_cons.mp front with ⟨rfl, -⟩
          apply quote_not_mem_placeholder other
          rw [show placeholder other = before ++ '"' :: after from partEq]
          simp

theorem flatMap_shown_write {span : Text} (isSpan : IsSpan span) {segments : List Segment}
    (clear : ∀ other, .quoted other ∈ segments → ¬ placeholder other <:+: span) :
    (write span segments).flatMap Segment.shown =
      Text.replace span (placeholder span) (segments.flatMap Segment.shown) := by
  have proper : (span.map Segment.bare).flatMap Segment.shown ≠ [] := by
    rw [flatMap_shown_map_bare]
    exact isSpan.ne_nil
  rw [write, Text.flatMap_replace proper _ (readWhole_span isSpan clear), flatMap_shown_map_bare]
  simp [Segment.shown]

/-! ## All substitutions -/

theorem flatMap_text_writeAll {entries : List (Text × Text)}
    (spans : ∀ entry ∈ entries, IsSpan entry.2) (segments : List Segment) :
    (writeAll entries segments).flatMap Segment.text = segments.flatMap Segment.text := by
  induction entries generalizing segments with
  | nil => rfl
  | cons entry entries ih =>
      rw [writeAll, List.foldl_cons, ← writeAll,
        ih (fun other member => spans other (by simp [member])),
        flatMap_text_write (spans entry (by simp))]

theorem mem_writeAll {entries : List (Text × Text)}
    (spans : ∀ entry ∈ entries, IsSpan entry.2) {segments : List Segment} {span : Text}
    (member : .quoted span ∈ writeAll entries segments) :
    (∃ entry ∈ entries, entry.2 = span) ∨ .quoted span ∈ segments := by
  induction entries generalizing segments with
  | nil => exact Or.inr member
  | cons entry entries ih =>
      rw [writeAll, List.foldl_cons, ← writeAll] at member
      rcases ih (fun other held => spans other (by simp [held])) member with
        ⟨other, held, same⟩ | old
      · exact Or.inl ⟨other, by simp [held], same⟩
      · rcases mem_write (spans entry (by simp)) old with rfl | older
        · exact Or.inl ⟨entry, by simp, rfl⟩
        · exact Or.inr older

/-- Writing all entries shows what hiding them in the shown text makes. -/
theorem flatMap_shown_writeAll {entries : List (Text × Text)} {segments : List Segment}
    (sound : ∀ entry ∈ entries, entry.1 = placeholder entry.2 ∧ IsSpan entry.2)
    (clear : ∀ entry ∈ entries, ∀ other,
      (∃ entry' ∈ entries, entry'.2 = other) ∨ .quoted other ∈ segments →
        ¬ placeholder other <:+: entry.2) :
    (writeAll entries segments).flatMap Segment.shown =
      hide ⟨entries⟩ (segments.flatMap Segment.shown) := by
  induction entries generalizing segments with
  | nil => rfl
  | cons entry entries ih =>
      rcases sound entry (by simp) with ⟨keyEq, isSpan⟩
      have step := flatMap_shown_write isSpan (fun other member => clear entry (by simp) other
        (Or.inr member))
      rw [writeAll, List.foldl_cons, ← writeAll, ih, step, hide, hide, List.foldl_cons, keyEq]
      · intro other member
        exact sound other (by simp [member])
      · intro entry' member other origin
        apply clear entry' (by simp [member])
        rcases origin with ⟨entry'', held, same⟩ | held
        · exact Or.inl ⟨entry'', by simp [held], same⟩
        · rcases mem_write isSpan held with rfl | old
          · exact Or.inl ⟨entry, by simp, rfl⟩
          · exact Or.inr old

/-! ## The segments of a shielded text -/

theorem isSpan_of_mem_quotesOf {text : Text} {entry : Text × Text}
    (member : entry ∈ (quotesOf text).entries) : IsSpan entry.2 :=
  isSpan_of_mem_spans (mem_quotesOf member).2

/-- Only the spans of the map are written. -/
theorem mem_written {text span : Text} (member : .quoted span ∈ written text) :
    ∃ entry ∈ (quotesOf text).entries, entry.2 = span := by
  rcases mem_writeAll (fun entry => isSpan_of_mem_quotesOf) member with found | old
  · exact found
  · simp at old

/-- Nothing of the text is lost by writing placeholders. -/
@[simp] theorem flatMap_text_written (text : Text) :
    (written text).flatMap Segment.text = text := by
  rw [written, flatMap_text_writeAll (fun entry => isSpan_of_mem_quotesOf), flatMap_text_map_bare]

/-- The written segments of a fresh text show the shielded text. -/
theorem flatMap_shown_written {text : Text} (fresh : Fresh text) :
    (written text).flatMap Segment.shown = (shield text).text := by
  rw [written, flatMap_shown_writeAll, flatMap_shown_map_bare]
  · rfl
  · intro entry member
    exact ⟨(mem_quotesOf member).1, isSpan_of_mem_quotesOf member⟩
  · intro entry member other origin
    rcases origin with ⟨entry', member', rfl⟩ | bare
    · rw [← (mem_quotesOf member').1]
      exact fresh.not_infix_span member' (mem_quotesOf member).2
    · simp at bare

end RunLine.Quote
