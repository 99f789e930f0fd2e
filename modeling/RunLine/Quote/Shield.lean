import RunLine.Digest
import RunLine.Quote.Quotes
import RunLine.Quote.Span
import RunLine.Text.Hex
import RunLine.Text.Replace
import RunLine.Text.Utf8
/-!
# Shielding quoted text

While a line is cut into commands and tokens its quoted spans are replaced by placeholders, which
hold neither separators nor blanks.  A placeholder depends on nothing but the span, so equal spans
share one.  Substitution goes entry by entry through the whole text, both ways in ascending order of
the placeholders; a placeholder that the text held from the start is therefore expanded as well.
-/

namespace RunLine.Quote

/-- The placeholder of a span: the first 128 bits of its digest. -/
def placeholder (span : Text) : Text := Hex.encode ((Digest.sha256 (Utf8.encode span)).take 16)

/-- The map of a list of spans; of spans that share a placeholder the first is kept. -/
def mapOfSpans (spans : List Text) : Quotes :=
  spans.foldl (fun map span => map.insertNew (placeholder span) span) Quotes.empty

/-- The placeholders and spans of a text. -/
def quotesOf (text : Text) : Quotes := mapOfSpans (spans text)

/-- A text with the spans of a map replaced by their placeholders. -/
def hide (quotes : Quotes) (text : Text) : Text :=
  quotes.entries.foldl (fun held entry => Text.replace entry.2 entry.1 held) text

/-- A text with the placeholders of a map replaced by their spans. -/
def restore (quotes : Quotes) (text : Text) : Text :=
  quotes.entries.foldl (fun held entry => Text.replace entry.1 entry.2 held) text

/-- A text without its spans, and what puts them back. -/
structure Shielded where
  text : Text
  quotes : Quotes
  deriving DecidableEq, Repr

/-- The text with every quoted span replaced by its placeholder. -/
def shield (text : Text) : Shielded := ⟨hide (quotesOf text) text, quotesOf text⟩

@[simp] theorem length_placeholder (span : Text) : (placeholder span).length = 32 := by
  simp [placeholder, Digest.sha256, Digest.bigEndian]

@[simp] theorem restore_empty (text : Text) : restore Quotes.empty text = text := rfl

end RunLine.Quote
