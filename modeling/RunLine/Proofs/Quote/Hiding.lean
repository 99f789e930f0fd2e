import RunLine.Proofs.Quote.Spelling
import RunLine.Proofs.Quote.Tokens

/-!
# When shielding hides every span

Shielding does not substitute at the places where spans were matched.  It substitutes the text of a
span wherever it can be read, one span after another in the order of the placeholders, so it may
take a text that reaches from the closing quote of one span to the opening quote of the next.  This
module states exactly when that does not happen: every place where the text of a span can be read
overlaps a matched span whose turn comes no later.  Then the shielded text is the text with each
matched span replaced where it stands, and no separator within a span is seen.
-/

namespace RunLine.Quote

/-! ## Guarded texts -/

/-- A matched span keeps another text at an offset from being taken: the two overlap, and the turn
of the matched one comes no later.  Turns go by placeholder and, among equal texts, from the
left. -/
def Guards (place : Nat × Text) (offset : Nat) (span : Text) : Prop :=
  place.1 < offset + span.length ∧ offset < place.1 + place.2.length ∧
    (placeholder place.2 < placeholder span ∨ place.2 = span ∧ place.1 ≤ offset)

/-- Wherever the text of a span can be read, a matched span guards it. -/
def Guarded (text : Text) : Prop :=
  ∀ span ∈ spans text, ∀ offset < text.length, span <+: text.drop offset →
    ∃ place ∈ matchesOf text, Guards place offset span

instance (place : Nat × Text) (offset : Nat) (span : Text) : Decidable (Guards place offset span) :=
  inferInstanceAs (Decidable (_ ∧ _ ∧ (_ ∨ _ ∧ _)))

instance (text : Text) : Decidable (Guarded text) :=
  inferInstanceAs (Decidable (∀ span ∈ spans text, ∀ offset < text.length,
    span <+: text.drop offset → ∃ place ∈ matchesOf text, Guards place offset span))

variable {text span : Text}

/-! ## One entry of the map -/

section Step

variable {done rest : List (Text × Text)} {entry : Text × Text}

theorem key_lt_of_mem_rest (entriesEq : (quotesOf text).entries = done ++ entry :: rest)
    {other : Text × Text} (member : other ∈ rest) : entry.1 < other.1 := by
  have ascending := ascending_quotesOf text
  rw [entriesEq] at ascending
  exact List.rel_of_pairwise_cons (List.pairwise_append.mp ascending).2.1 member

theorem key_lt_of_mem_done (entriesEq : (quotesOf text).entries = done ++ entry :: rest)
    {other : Text × Text} (member : other ∈ done) : other.1 < entry.1 := by
  have ascending := ascending_quotesOf text
  rw [entriesEq] at ascending
  exact (List.pairwise_append.mp ascending).2.2 other member entry (by simp)

/-- The spans whose turn has not come have placeholders from the entry's on. -/
theorem le_placeholder_of_pending (entriesEq : (quotesOf text).entries = done ++ entry :: rest)
    {span : Text} (isPending : span ∈ (entry :: rest).map Prod.snd) :
    entry.1 ≤ placeholder span := by
  rcases List.mem_map.mp isPending with ⟨other, member, rfl⟩
  have inEntries : other ∈ (quotesOf text).entries := by
    rw [entriesEq]
    exact List.mem_append_right _ member
  rw [← (mem_quotesOf inEntries).1]
  rcases List.mem_cons.mp member with rfl | inRest
  · exact le_refl _
  · exact le_of_lt (key_lt_of_mem_rest entriesEq inRest)

theorem not_pending_self (entriesEq : (quotesOf text).entries = done ++ entry :: rest) :
    entry.2 ∉ rest.map Prod.snd := by
  intro member
  rcases List.mem_map.mp member with ⟨other, inRest, same⟩
  have inEntries : other ∈ (quotesOf text).entries := by simp [entriesEq, inRest]
  have entryIn : entry ∈ (quotesOf text).entries := by simp [entriesEq]
  have below := key_lt_of_mem_rest entriesEq inRest
  rw [(mem_quotesOf inEntries).1, (mem_quotesOf entryIn).1, same] at below
  exact lt_irrefl _ below

/-- The spans whose turn has passed are not pending. -/
theorem not_pending_of_mem_done (entriesEq : (quotesOf text).entries = done ++ entry :: rest)
    {other : Text × Text} (member : other ∈ done) : other.2 ∉ (entry :: rest).map Prod.snd := by
  intro isPending
  have inEntries : other ∈ (quotesOf text).entries := by simp [entriesEq, member]
  have notSooner := le_placeholder_of_pending entriesEq isPending
  rw [← (mem_quotesOf inEntries).1] at notSooner
  exact absurd (key_lt_of_mem_done entriesEq member) (not_lt.mpr notSooner)

/-- When the turn of an entry comes, the spans that are written have smaller placeholders. -/
theorem sooner_of_mem_places_spell (distinguished : Distinguished text)
    (entriesEq : (quotesOf text).entries = done ++ entry :: rest) {place : Nat × Text}
    (placed : place ∈ places Segment.text 0 (spell (entry :: rest) (segments text))) :
    place ∈ matchesOf text ∧ placeholder place.2 < entry.1 := by
  rcases mem_places_spell.mp placed with ⟨matched, notPending⟩
  refine ⟨matched, ?_⟩
  have inEntries := distinguished.mem_quotesOf (mem_spans_of_mem_matchesOf matched)
  rw [entriesEq, List.mem_append] at inEntries
  rcases inEntries with inDone | isPending
  · exact key_lt_of_mem_done entriesEq inDone
  · exact absurd (List.mem_map.mpr ⟨_, isPending, rfl⟩) notPending

/-- In a guarded text a run that spells the span of the entry whose turn it is starts within a
matched place of that span. -/
theorem run_within_match (guarded : Guarded text)
    (entriesEq : (quotesOf text).entries = done ++ entry :: rest) {before after : List Segment}
    (spelled : spell (entry :: rest) (segments text) = before ++ entry.2.map .bare ++ after) :
    ∃ left right, segments text = left ++ .quoted entry.2 :: right ∧
      (left.flatMap Segment.text).length ≤ (before.flatMap Segment.text).length ∧
      (before.flatMap Segment.text).length <
        (left.flatMap Segment.text).length + entry.2.length := by
  have entryIn : entry ∈ (quotesOf text).entries := by simp [entriesEq]
  have keyEq := (mem_quotesOf entryIn).1
  have positive := List.length_pos_iff.mpr (isSpan_of_mem_quotesOf entryIn).ne_nil
  have read : text =
      before.flatMap Segment.text ++ entry.2 ++ after.flatMap Segment.text := by
    have whole := congrArg (List.flatMap Segment.text) spelled
    rwa [flatMap_text_spell, flatMap_text_segments, List.flatMap_append, List.flatMap_append,
      flatMap_text_map_bare] at whole
  have inRange : (before.flatMap Segment.text).length < text.length := by
    rw [read]
    simp only [List.length_append]
    omega
  have front : entry.2 <+: text.drop (before.flatMap Segment.text).length := by
    rw [read, List.append_assoc, List.drop_left]
    exact List.prefix_append _ _
  rcases guarded entry.2 (mem_quotesOf entryIn).2 _ inRange front with
    ⟨place, matched, startsBefore, endsAfter, sooner | ⟨same, notLater⟩⟩
  · -- A span whose turn came sooner is written already, so the run would overlap it.
    exfalso
    have written : place.2 ∉ (entry :: rest).map Prod.snd := by
      intro isPending
      have notSooner := le_placeholder_of_pending entriesEq isPending
      rw [keyEq] at notSooner
      exact absurd sooner (not_lt.mpr notSooner)
    rcases mem_places.mp (mem_places_spell.mpr ⟨matched, written⟩) with ⟨left, right, cut, startEq⟩
    rcases run_beside_span (spelled.symm.trans cut) with spanAfter | spanBefore
    · omega
    · omega
  · rcases mem_places.mp matched with ⟨left, right, cut, startEq⟩
    rw [same] at cut endsAfter
    refine ⟨left, right, cut, ?_, ?_⟩
    · omega
    · omega

/-- In a guarded text no such run starts in a segment other than the span. -/
theorem no_run_elsewhere (guarded : Guarded text)
    (entriesEq : (quotesOf text).entries = done ++ entry :: rest)
    {left right before after : List Segment} {item : Segment}
    (cut : segments text = left ++ item :: right) (different : item ≠ .quoted entry.2)
    (itemEq : spellOne (entry :: rest) item = before ++ after) (nonempty : after ≠ []) :
    ¬ entry.2.map .bare <+: after ++ spell (entry :: rest) right := by
  rintro ⟨tail, tailEq⟩
  have spelled : spell (entry :: rest) (segments text) =
      (spell (entry :: rest) left ++ before) ++ entry.2.map .bare ++ tail := by
    rw [cut, spell, List.flatMap_append, List.flatMap_cons, itemEq, ← spell, ← spell,
      List.append_assoc before, ← tailEq]
    simp only [List.append_assoc]
  have itemLength := congrArg (fun parts => (parts.flatMap Segment.text).length) itemEq
  have afterLength : 0 < (after.flatMap Segment.text).length := by
    cases after with
    | nil => exact absurd rfl nonempty
    | cons first after =>
        have spans : ∀ span, item = .quoted span → IsSpan span := by
          rintro span rfl
          have inText : .quoted span ∈ segments text := by simp [cut]
          exact isSpan_of_mem_segments inText
        have inItem : first ∈ spellOne (entry :: rest) item := by simp [itemEq]
        have positive := List.length_pos_iff.mpr (text_ne_nil_of_mem_spellOne spans inItem)
        rw [List.flatMap_cons, List.length_append]
        omega
  simp only [flatMap_text_spellOne, List.flatMap_append, List.length_append] at itemLength
  rcases run_within_match guarded entriesEq spelled with ⟨left', right', cut', notLater, within⟩
  simp only [List.flatMap_append, List.length_append, flatMap_text_spell] at notLater within
  rw [cut] at cut'
  rcases Text.append_cons_eq_append_cons cut' with ⟨-, same, -⟩ | ⟨gap, rfl⟩ | ⟨gap, rfl⟩
  · exact different same
  · simp only [List.flatMap_append, List.flatMap_cons, List.flatMap_nil, List.length_append,
      List.append_nil] at notLater
    omega
  · simp only [List.flatMap_append, List.flatMap_cons, List.flatMap_nil, List.length_append,
      List.append_nil, Segment.text] at within
    omega

/-- In a guarded text the turn of an entry writes its span at the matched places and nowhere
else. -/
theorem write_spell (guarded : Guarded text)
    (entriesEq : (quotesOf text).entries = done ++ entry :: rest) :
    write entry.2 (spell (entry :: rest) (segments text)) = spell rest (segments text) := by
  have entryIn : entry ∈ (quotesOf text).entries := by simp [entriesEq]
  have isSpan := isSpan_of_mem_quotesOf entryIn
  rw [write, spell, Text.replace_flatMap (map_bare_ne_nil isSpan) _ (· = .quoted entry.2)]
  · apply List.flatMap_congr
    intro item member
    cases item with
    | bare letter => simp [spellOne]
    | quoted span =>
        by_cases isEntry : span = entry.2
        · subst isEntry
          simp [spellOne, not_pending_self entriesEq]
        · simp only [spellOne, List.map_cons, List.mem_cons, isEntry, false_or,
            Segment.quoted.injEq, if_false]
  · rintro item member rfl
    simp [spellOne]
  · intro left item right before after cut different itemEq nonempty
    exact no_run_elsewhere guarded entriesEq cut different itemEq nonempty

end Step

/-! ## All entries of the map -/

/-- In a guarded text every turn writes matched spans only. -/
theorem written_of_guarded (distinguished : Distinguished text) (guarded : Guarded text) :
    written text = segments text := by
  suffices turns : ∀ rest done, (quotesOf text).entries = done ++ rest →
      writeAll rest (spell rest (segments text)) = segments text by
    have allPending : ∀ span, .quoted span ∈ segments text →
        span ∈ (quotesOf text).entries.map Prod.snd := by
      intro span member
      exact List.mem_map.mpr ⟨_, distinguished.mem_quotesOf (mem_spans.mpr member), rfl⟩
    have start := turns (quotesOf text).entries [] rfl
    rwa [spell_of_pending allPending, flatMap_text_segments] at start
  intro rest
  induction rest with
  | nil =>
      intro done _
      exact spell_nil _
  | cons entry rest ih =>
      intro done entriesEq
      rw [writeAll, List.foldl_cons, write_spell guarded entriesEq]
      exact ih (done ++ [entry]) (by simp [entriesEq])

/-- If the outcome is as matched, then so is every stage on the way. -/
theorem writeAll_eq_spell {done rest : List (Text × Text)} (same : written text = segments text)
    (entriesEq : (quotesOf text).entries = done ++ rest)
    (fresh : ∀ entry ∈ done, entry.2 ∉ rest.map Prod.snd) :
    writeAll done (text.map .bare) = spell rest (segments text) := by
  have isSpan : ∀ entry ∈ done ++ rest, IsSpan entry.2 := by
    intro entry member
    rw [← entriesEq] at member
    exact isSpan_of_mem_quotesOf member
  have stages : writeAll rest (writeAll done (text.map .bare)) = segments text := by
    rw [← same, written, entriesEq, writeAll, writeAll, ← List.foldl_append, ← writeAll]
  rw [← stages, spell_writeAll, spell_of_not_pending]
  · intro span member
    rcases mem_writeAll (fun entry held => isSpan entry (by simp [held])) member with
      ⟨entry, held, rfl⟩ | bare
    · exact fresh entry held
    · simp at bare
  · intro entry member
    exact ⟨isSpan entry (by simp [member]), List.mem_map_of_mem member⟩

/-- When the turn of a span comes, an occurrence of it that overlaps no span with a smaller
placeholder is still spelled out. -/
theorem exists_run {done rest : List (Text × Text)} {offset : Nat}
    (distinguished : Distinguished text)
    (entriesEq : (quotesOf text).entries = done ++ (placeholder span, span) :: rest)
    (front : span <+: text.drop offset) (inRange : offset < text.length)
    (notSooner : ∀ place ∈ matchesOf text, placeholder place.2 < placeholder span →
      offset + span.length ≤ place.1 ∨ place.1 + place.2.length ≤ offset) :
    ∃ before after, spell ((placeholder span, span) :: rest) (segments text) =
        before ++ span.map .bare ++ after ∧
      (before.flatMap Segment.text).length = offset := by
  rcases front with ⟨tail, tailEq⟩
  have takeLength : (text.take offset).length = offset := by
    rw [List.length_take]
    omega
  have read : (spell ((placeholder span, span) :: rest) (segments text)).flatMap Segment.text =
      text.take offset ++ span ++ tail := by
    rw [flatMap_text_spell, flatMap_text_segments, List.append_assoc, tailEq,
      List.take_append_drop]
  have placeOf : ∀ left other right,
      spell ((placeholder span, span) :: rest) (segments text) = left ++ .quoted other :: right →
        ((left.flatMap Segment.text).length, other) ∈
          places Segment.text 0 (spell ((placeholder span, span) :: rest) (segments text)) := by
    intro left other right cut
    exact mem_places.mpr ⟨left, right, cut, by simp⟩
  have nonempty : ∀ other,
      .quoted other ∈ spell ((placeholder span, span) :: rest) (segments text) → other ≠ [] := by
    intro other member
    rcases List.append_of_mem member with ⟨left, right, cut⟩
    have matched :=
      (sooner_of_mem_places_spell distinguished entriesEq (placeOf left other right cut)).1
    exact (isSpan_of_mem_spans (mem_spans_of_mem_matchesOf matched)).ne_nil
  have beside : ∀ left other right,
      spell ((placeholder span, span) :: rest) (segments text) = left ++ .quoted other :: right →
        (text.take offset).length + span.length ≤ (left.flatMap Segment.text).length ∨
          (left.flatMap Segment.text).length + other.length ≤ (text.take offset).length := by
    intro left other right cut
    rcases sooner_of_mem_places_spell distinguished entriesEq (placeOf left other right cut) with
      ⟨matched, sooner⟩
    rw [takeLength]
    exact notSooner _ matched sooner
  rcases exists_run_of_beside nonempty read beside with ⟨before, after, spelled, beforeEq⟩
  exact ⟨before, after, spelled, by rw [beforeEq, takeLength]⟩

theorem write_spell_of_written {done rest : List (Text × Text)} {entry : Text × Text}
    (same : written text = segments text)
    (entriesEq : (quotesOf text).entries = done ++ entry :: rest) :
    write entry.2 (spell (entry :: rest) (segments text)) = spell rest (segments text) := by
  have entriesEq' : (quotesOf text).entries = (done ++ [entry]) ++ rest := by simp [entriesEq]
  have notPending : ∀ other ∈ done ++ [entry], other.2 ∉ rest.map Prod.snd := by
    intro other member
    rcases List.mem_append.mp member with inDone | isLast
    · have notPending := not_pending_of_mem_done entriesEq inDone
      rw [List.map_cons, List.mem_cons, not_or] at notPending
      exact notPending.2
    · rw [List.mem_singleton.mp isLast]
      exact not_pending_self entriesEq
  rw [← writeAll_eq_spell same entriesEq fun _ member => not_pending_of_mem_done entriesEq member,
    ← writeAll_eq_spell same entriesEq' notPending, writeAll, writeAll, List.foldl_append]
  rfl

/-- An occurrence that no matched span guards would be taken. -/
theorem guarded_of_written (distinguished : Distinguished text)
    (same : written text = segments text) : Guarded text := by
  intro span isIn offset inRange front
  have isSpan := isSpan_of_mem_spans isIn
  rcases List.append_of_mem (distinguished.mem_quotesOf isIn) with ⟨done, rest, entriesEq⟩
  by_cases sooner : ∃ place ∈ matchesOf text, place.1 < offset + span.length ∧
      offset < place.1 + place.2.length ∧ placeholder place.2 < placeholder span
  · rcases sooner with ⟨place, matched, startsBefore, endsAfter, earlier⟩
    exact ⟨place, matched, startsBefore, endsAfter, Or.inl earlier⟩
  -- When the turn of the span comes, nothing that overlaps the occurrence is written yet.
  have notSooner : ∀ place ∈ matchesOf text, placeholder place.2 < placeholder span →
      offset + span.length ≤ place.1 ∨ place.1 + place.2.length ≤ offset := by
    intro place matched earlier
    by_contra overlapping
    rw [not_or, not_le, not_le] at overlapping
    exact sooner ⟨place, matched, overlapping.1, overlapping.2, earlier⟩
  rcases exists_run distinguished entriesEq front inRange notSooner with
    ⟨before, after, spelled, lengthEq⟩
  rcases exists_place_of_run isSpan before after with ⟨start, placed, startsBefore, endsAfter⟩
  rw [← spelled, write_spell_of_written same entriesEq] at placed
  rw [lengthEq] at startsBefore endsAfter
  have positive := List.length_pos_iff.mpr isSpan.ne_nil
  have startsInTime : start < offset + span.length := by omega
  exact ⟨(start, span), (mem_places_spell.mp placed).1, startsInTime, endsAfter,
    Or.inr ⟨rfl, startsBefore⟩⟩

/-! ## The condition -/

/-- Shielding hides every span exactly if the text is guarded: of a text whose distinct spans have
distinct placeholders, none of which occurs in it, the shielded text is the text with each matched
span replaced where it stands, and it is cut into commands and tokens outside of spans only. -/
theorem shield_hides_spans_iff (fresh : Fresh text) (distinguished : Distinguished text) :
    ((shield text).text = (segments text).flatMap Segment.shown ∧
        ((shield text).text.splitOn '|').map (fun command => command.splitOn ' ') =
          (tokensOf (segments text)).map fun command => command.map (List.flatMap Segment.shown)) ↔
      Guarded text := by
  constructor
  · rintro ⟨inPlace, -⟩
    apply guarded_of_written distinguished
    apply eq_of_flatMap_shown_eq
    · intro span member
      rcases mem_written member with ⟨entry, inEntries, rfl⟩
      exact isSpan_of_mem_quotesOf inEntries
    · exact fun span => isSpan_of_mem_segments
    · rw [flatMap_text_written, flatMap_text_segments]
    · rw [flatMap_shown_written fresh, inPlace]
  · intro guarded
    have inPlace : (shield text).text = (segments text).flatMap Segment.shown := by
      rw [← flatMap_shown_written fresh, written_of_guarded distinguished guarded]
    exact ⟨inPlace, by rw [inPlace, cut_shown]⟩

/-- The text between the two spans `"b"` reads as the span that follows, which has a greater
placeholder, so it is not taken. -/
theorem shield_hides_spans_guarded :
    Fresh (Text.lit "\"b\"; \"b\" \"; \"") ∧ Distinguished (Text.lit "\"b\"; \"b\" \"; \"") ∧
      Guarded (Text.lit "\"b\"; \"b\" \"; \"") ∧
      (shield (Text.lit "\"b\"; \"b\" \"; \"")).text =
        (segments (Text.lit "\"b\"; \"b\" \"; \"")).flatMap Segment.shown := by
  have fresh : Fresh (Text.lit "\"b\"; \"b\" \"; \"") := by decide +kernel
  have distinguished : Distinguished (Text.lit "\"b\"; \"b\" \"; \"") := by decide +kernel
  have guarded : Guarded (Text.lit "\"b\"; \"b\" \"; \"") := by decide +kernel
  have hidden := (shield_hides_spans_iff fresh distinguished).mpr guarded
  exact ⟨fresh, distinguished, guarded, hidden.1⟩

/-- Here the bar between the spans is read as a span whose placeholder is the smallest.  Both spans
are broken, and the bar within the second one is seen as a separator. -/
theorem shield_breaks_spans :
    Fresh (Text.lit "\"a\"|\"|\"") ∧ Distinguished (Text.lit "\"a\"|\"|\"") ∧
      (shield (Text.lit "\"a\"|\"|\"")).text ≠
        (segments (Text.lit "\"a\"|\"|\"")).flatMap Segment.shown ∧
      (shield (Text.lit "\"a\"|\"|\"")).text.splitOn '|' =
        [Text.lit "\"a72a2e3247bdaefd113088f784e9044a7", Text.lit "\""] := by
  decide +kernel

end RunLine.Quote
