import RunLine.Json.Reader
import RunLine.Json.Writer
import RunLine.Quote.Shield
/-!
# The shield report

A shielded text and its quote map as one JSON object, and the way back: the map read from JSON text
puts the quotes back into a line.
-/

namespace RunLine

/-- The map as a JSON object. -/
def Quotes.toJson (quotes : Quotes) : Json :=
  .object (quotes.entries.map fun entry => (entry.1, .string entry.2))

/-- The map that a JSON object of strings states; the last value of a name counts. -/
def Quotes.ofJson? (value : Json) : Option Quotes := value.asStrings?.map Quotes.ofEntries

namespace Quote

/-- The map and the text as a JSON object, names in ascending order. -/
def Shielded.toJson (shielded : Shielded) : Json :=
  .object [(Text.lit "quotes", shielded.quotes.toJson), (Text.lit "shielded", .string shielded.text)]

/-- What is shown of a line and its shielding. -/
def report (line : Text) : Text := (shield line).toJson.pretty

/-- A line with the quotes of a JSON object put back, if the text is such an object. -/
def restoreFrom? (quotes : Text) (line : Text) : Option Text := do
  let value ← Json.read? quotes
  let map ← Quotes.ofJson? value
  some (restore map line)

/-- What is said of a text that is no such object. -/
def invalidQuotes : Text := Text.lit "--quotes must be a JSON object of placeholders"

end Quote

end RunLine
