import RunLine.Text
/-!
# Quoted spans

A span is a double quote, any character but a newline, a run without quotes and newlines, and a
double quote; so a quote directly after the opening one belongs to the span, and a span is never
empty between its ends.  Spans are taken leftmost first and do not overlap.  Cutting a text into
spans and the bare characters between them gives the text as a sequence of segments.
-/

namespace RunLine.Quote

/-- The rest of a span after its first two characters: everything up to the next double quote of the
same line. -/
def closing? : Text → Option Text
  | [] => none
  | letter :: rest =>
      if letter = '"' then some ['"']
      else if letter = '\n' then none
      else (closing? rest).map (letter :: ·)

/-- The span that starts with the first character of a text. -/
def spanAt? : Text → Option Text
  | opening :: first :: rest =>
      if opening = '"' ∧ first ≠ '\n' then (closing? rest).map (opening :: first :: ·) else none
  | _ => none

/-- One part of a text: a character outside all spans, or a whole span. -/
inductive Segment where
  | bare (letter : Char)
  | quoted (span : Text)
  deriving DecidableEq, Repr

namespace Segment

/-- The characters that a segment covers. -/
def text : Segment → Text
  | bare letter => [letter]
  | quoted span => span

def span? : Segment → Option Text
  | bare _ => none
  | quoted span => some span

end Segment

/-- The segments of a text of which so many characters still belong to the last span. -/
def segmentsAfter : Nat → Text → List Segment
  | _, [] => []
  | covered + 1, _ :: rest => segmentsAfter covered rest
  | 0, letter :: rest =>
      match spanAt? (letter :: rest) with
      | some span => .quoted span :: segmentsAfter (span.length - 1) rest
      | none => .bare letter :: segmentsAfter 0 rest

/-- The segments of a text in order. -/
def segments (text : Text) : List Segment := segmentsAfter 0 text

/-- The quoted spans of a text in order, quotes included. -/
def spans (text : Text) : List Text := (segments text).filterMap Segment.span?

theorem segmentsAfter_eq_drop (covered : Nat) (text : Text) :
    segmentsAfter covered text = segments (text.drop covered) := by
  induction covered generalizing text with
  | zero => rfl
  | succ covered ih =>
      cases text with
      | nil => rfl
      | cons letter rest => exact ih rest

theorem closing?_starts {text tail : Text} (found : closing? text = some tail) : tail <+: text := by
  induction text generalizing tail with
  | nil => simp [closing?] at found
  | cons letter rest ih =>
      unfold closing? at found
      split at found
      · next isQuote =>
          cases found
          exact ⟨rest, by simp [isQuote]⟩
      · split at found
        · simp at found
        · obtain ⟨inner, foundInner, rfl⟩ := Option.map_eq_some_iff.mp found
          exact (List.prefix_cons_inj letter).mpr (ih foundInner)

/-- A span is the beginning of the text where it starts. -/
theorem spanAt?_starts {text span : Text} (found : spanAt? text = some span) : span <+: text := by
  unfold spanAt? at found
  split at found
  · split at found
    · obtain ⟨inner, foundInner, rfl⟩ := Option.map_eq_some_iff.mp found
      exact (List.prefix_cons_inj _).mpr
        ((List.prefix_cons_inj _).mpr (closing?_starts foundInner))
    · simp at found
  · simp at found

end RunLine.Quote
