import Mathlib.Data.Char
import Mathlib.Data.List.Lex
import RunLine.Proofs.Quote.Segments

/-!
# The entries of a quote map

A quote map keeps its entries in strictly ascending order of their placeholders.  The map of a text
holds, for every span of the text, an entry with its placeholder, and every entry is a span of the
text under its own placeholder.  Which span an entry holds is determined by the placeholder alone as
long as distinct spans have distinct placeholders.
-/

namespace RunLine

namespace Quotes

/-- Entries in strictly ascending order of their placeholders. -/
def Ascending (entries : List (Text × Text)) : Prop :=
  entries.Pairwise fun one other => one.1 < other.1

variable {settle : Text → Text → Text} {key span : Text} {entries : List (Text × Text)}

/-- Placing an entry touches no entry of another placeholder. -/
theorem mem_place {entry : Text × Text} (member : entry ∈ place settle key span entries) :
    entry ∈ entries ∨ entry = (key, span) ∨
      ∃ held, (key, held) ∈ entries ∧ entry = (key, settle held span) := by
  induction entries with
  | nil => exact Or.inr (Or.inl (by simpa [place] using member))
  | cons first rest ih =>
      rcases first with ⟨other, held⟩
      unfold place at member
      split at member
      · next same =>
          subst same
          rcases List.mem_cons.mp member with rfl | inRest
          · exact Or.inr (Or.inr ⟨held, by simp, rfl⟩)
          · exact Or.inl (by simp [inRest])
      · split at member
        · rcases List.mem_cons.mp member with rfl | inEntries
          · exact Or.inr (Or.inl rfl)
          · exact Or.inl inEntries
        · rcases List.mem_cons.mp member with rfl | inRest
          · exact Or.inl (by simp)
          · rcases ih inRest with old | new | ⟨earlier, present, settled⟩
            · exact Or.inl (by simp [old])
            · exact Or.inr (Or.inl new)
            · exact Or.inr (Or.inr ⟨earlier, by simp [present], settled⟩)

theorem exists_mem_place : ∃ held, (key, held) ∈ place settle key span entries := by
  induction entries with
  | nil => exact ⟨span, by simp [place]⟩
  | cons first rest ih =>
      rcases first with ⟨other, held⟩
      unfold place
      split
      · exact ⟨settle held span, by simp⟩
      · split
        · exact ⟨span, by simp⟩
        · rcases ih with ⟨earlier, present⟩
          exact ⟨earlier, by simp [present]⟩

/-- Where the held span is kept, no entry is lost. -/
theorem mem_place_of_mem {entry : Text × Text} (member : entry ∈ entries) :
    entry ∈ place (fun held _ => held) key span entries := by
  induction entries with
  | nil => simp at member
  | cons first rest ih =>
      rcases first with ⟨other, held⟩
      unfold place
      split
      · next same =>
          subst same
          exact member
      · split
        · exact List.mem_cons_of_mem _ member
        · rcases List.mem_cons.mp member with rfl | inRest
          · exact List.mem_cons_self
          · exact List.mem_cons_of_mem _ (ih inRest)

theorem ascending_place (ascending : Ascending entries) :
    Ascending (place settle key span entries) := by
  induction entries with
  | nil => exact List.pairwise_singleton _ _
  | cons first rest ih =>
      rcases first with ⟨other, held⟩
      rcases List.pairwise_cons.mp ascending with ⟨firstBelow, restAscending⟩
      unfold place
      split
      · next same =>
          subst same
          exact List.pairwise_cons.mpr ⟨firstBelow, restAscending⟩
      · next different =>
          split
          · next below =>
              refine List.pairwise_cons.mpr ⟨?_, ascending⟩
              intro entry member
              rcases List.mem_cons.mp member with rfl | inRest
              · exact below
              · exact List.lt_trans below (firstBelow entry inRest)
          · next notBelow =>
              have above : other < key := lt_of_le_of_ne (not_lt.mp notBelow) (Ne.symm different)
              refine List.pairwise_cons.mpr ⟨?_, ih restAscending⟩
              intro entry member
              rcases mem_place member with old | rfl | ⟨earlier, _, rfl⟩
              · exact firstBelow entry old
              · exact above
              · exact above

theorem lookup_cons_eq (other key held : Text) (rest : List (Text × Text)) :
    ((key, held) :: rest).lookup other = if other = key then some held else rest.lookup other := by
  rw [List.lookup_cons]
  by_cases same : other = key
  · simp [same]
  · rw [if_neg same, beq_eq_false_iff_ne.mpr same]

/-- In ascending entries a placeholder has the span of its entry. -/
theorem Ascending.mem_iff_lookup (ascending : Ascending entries) :
    (key, span) ∈ entries ↔ entries.lookup key = some span := by
  induction entries with
  | nil => simp
  | cons entry rest ih =>
      rcases entry with ⟨other, held⟩
      rcases List.pairwise_cons.mp ascending with ⟨below, restAscending⟩
      rw [List.mem_cons, Prod.mk.injEq, lookup_cons_eq]
      by_cases same : key = other
      · subst same
        have notLater : (key, span) ∉ rest := fun later => lt_irrefl key (below _ later)
        simp [notLater, eq_comm]
      · simp [same, ih restAscending]

theorem lookup_eq_none_of_lt (below : ∀ entry ∈ entries, key < entry.1) :
    entries.lookup key = none := by
  rw [List.lookup_eq_none_iff]
  intro entry member
  simpa using ne_of_lt (below entry member)

/-- Where the held span is kept, a placed one counts only if its placeholder had none. -/
theorem lookup_place (ascending : Ascending entries) (other : Text) :
    (place (fun held _ => held) key span entries).lookup other =
      (entries.lookup other).or (if other = key then some span else none) := by
  induction entries with
  | nil =>
      rw [place, lookup_cons_eq]
      rfl
  | cons entry rest ih =>
      rcases entry with ⟨first, held⟩
      rcases List.pairwise_cons.mp ascending with ⟨below, restAscending⟩
      unfold place
      split
      · next same =>
          subst same
          rw [lookup_cons_eq]
          by_cases isKey : other = key
          · simp [isKey]
          · simp [isKey]
      · next different =>
          split
          · next before =>
              have absent : ((first, held) :: rest).lookup key = none := by
                apply lookup_eq_none_of_lt
                intro entry member
                rcases List.mem_cons.mp member with rfl | later
                · exact before
                · exact List.lt_trans before (below entry later)
              rw [lookup_cons_eq]
              by_cases isKey : other = key
              · subst isKey
                simp [absent]
              · simp [isKey]
          · rw [lookup_cons_eq, lookup_cons_eq, ih restAscending]
            by_cases isFirst : other = first
            · simp [isFirst]
            · simp [isFirst]

end Quotes

namespace Quote

open Quotes

/-! ## The map of a list of spans -/

/-- What collecting spans into a map keeps and what it adds. -/
theorem entries_collect (spans : List Text) (map : Quotes) (ascending : Ascending map.entries) :
    let collected := spans.foldl (fun map span => map.insertNew (placeholder span) span) map
    Ascending collected.entries ∧
      (∀ entry ∈ map.entries, entry ∈ collected.entries) ∧
      (∀ span ∈ spans, ∃ held, (placeholder span, held) ∈ collected.entries) ∧
      ∀ entry ∈ collected.entries,
        entry ∈ map.entries ∨ entry.1 = placeholder entry.2 ∧ entry.2 ∈ spans := by
  induction spans generalizing map with
  | nil => exact ⟨ascending, fun _ member => member, by simp, fun _ member => Or.inl member⟩
  | cons span spans ih =>
      obtain ⟨sorted, kept, complete, sound⟩ :=
        ih (map.insertNew (placeholder span) span) (ascending_place ascending)
      refine ⟨sorted, fun entry member => kept entry (mem_place_of_mem member), ?_, ?_⟩
      · intro other member
        rcases List.mem_cons.mp member with rfl | inSpans
        · have placed : ∃ held, (placeholder other, held) ∈
              (map.insertNew (placeholder other) other).entries := exists_mem_place
          rcases placed with ⟨held, present⟩
          exact ⟨held, kept _ present⟩
        · exact complete other inSpans
      · intro entry member
        rcases sound entry member with placed | ⟨keyEq, inSpans⟩
        · rcases mem_place placed with old | rfl | ⟨held, present, rfl⟩
          · exact Or.inl old
          · exact Or.inr ⟨rfl, by simp⟩
          · exact Or.inl present
        · exact Or.inr ⟨keyEq, by simp [inSpans]⟩

theorem ascending_quotesOf (text : Text) : Ascending (quotesOf text).entries :=
  (entries_collect (spans text) Quotes.empty List.Pairwise.nil).1

/-- Every entry is a span of the text under its own placeholder. -/
theorem mem_quotesOf {text : Text} {entry : Text × Text}
    (member : entry ∈ (quotesOf text).entries) :
    entry.1 = placeholder entry.2 ∧ entry.2 ∈ spans text := by
  have sound := (entries_collect (spans text) Quotes.empty List.Pairwise.nil).2.2.2
  rcases sound entry member with none | found
  · simp [Quotes.empty] at none
  · exact found

theorem exists_entry {text span : Text} (member : span ∈ spans text) :
    ∃ held, (placeholder span, held) ∈ (quotesOf text).entries :=
  (entries_collect (spans text) Quotes.empty List.Pairwise.nil).2.2.1 span member

/-- A placeholder has in the map the first span with it, unless the map had one before. -/
theorem lookup_collect (spans : List Text) (map : Quotes) (ascending : Ascending map.entries)
    (key : Text) :
    (spans.foldl (fun map span => map.insertNew (placeholder span) span) map).entries.lookup key =
      (map.entries.lookup key).or (spans.find? fun span => placeholder span = key) := by
  induction spans generalizing map with
  | nil => simp
  | cons span spans ih =>
      rw [List.foldl_cons, ih (map.insertNew (placeholder span) span) (ascending_place ascending),
        insertNew, lookup_place ascending, List.find?_cons, Option.or_assoc]
      by_cases isKey : placeholder span = key
      · simp [isKey]
      · simp [isKey, Ne.symm isKey]

/-- The span of a placeholder is the first span of the text with it. -/
theorem mem_quotesOf_iff {text key span : Text} :
    (key, span) ∈ (quotesOf text).entries ↔
      (spans text).find? (fun other => placeholder other = key) = some span := by
  rw [(ascending_quotesOf text).mem_iff_lookup, quotesOf, mapOfSpans,
    lookup_collect (spans text) Quotes.empty List.Pairwise.nil]
  rfl

/-! ## Conditions on a text -/

/-- No placeholder of the text's quote map occurs in the text. -/
def Fresh (text : Text) : Prop := ∀ entry ∈ (quotesOf text).entries, ¬ entry.1 <:+: text

/-- Distinct spans of the text have distinct placeholders. -/
def Distinguished (text : Text) : Prop :=
  ∀ one ∈ spans text, ∀ other ∈ spans text, placeholder one = placeholder other → one = other

instance (text : Text) : Decidable (Fresh text) :=
  inferInstanceAs (Decidable (∀ entry ∈ (quotesOf text).entries, ¬ entry.1 <:+: text))

instance (text : Text) : Decidable (Distinguished text) :=
  inferInstanceAs (Decidable (∀ one ∈ spans text, ∀ other ∈ spans text,
    placeholder one = placeholder other → one = other))

/-- No placeholder of a fresh text occurs in one of its spans. -/
theorem Fresh.not_infix_span {text : Text} (fresh : Fresh text) {entry : Text × Text}
    (member : entry ∈ (quotesOf text).entries) {span : Text} (isSpan : span ∈ spans text) :
    ¬ entry.1 <:+: span := by
  intro inside
  exact fresh entry member (inside.trans (infix_of_mem_spans isSpan))

/-- Distinguished spans are all in the map. -/
theorem Distinguished.mem_quotesOf {text span : Text} (distinguished : Distinguished text)
    (member : span ∈ spans text) : (placeholder span, span) ∈ (quotesOf text).entries := by
  rcases exists_entry member with ⟨held, present⟩
  rcases Quote.mem_quotesOf present with ⟨keyEq, heldMember⟩
  have same : span = held := distinguished span member held heldMember keyEq
  rwa [← same] at present

end Quote

end RunLine
