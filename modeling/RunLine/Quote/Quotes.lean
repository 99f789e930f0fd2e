import RunLine.Text
/-!
# Quote maps

A quote map takes placeholders to the spans they stand for.  Entries are kept in ascending order of
their placeholders, by code point, because that is the order in which they are substituted and
shown.
-/

namespace RunLine

/-- Placeholders with their spans, in ascending order of the placeholders. -/
structure Quotes where
  entries : List (Text × Text)
  deriving DecidableEq, Repr

namespace Quotes

/-- The map without entries. -/
def empty : Quotes := ⟨[]⟩

/-- Entries with one more at its place.  Where the placeholder is there already, `settle` makes the
span out of the held one and the new one. -/
def place (settle : Text → Text → Text) (key span : Text) : List (Text × Text) → List (Text × Text)
  | [] => [(key, span)]
  | (other, held) :: rest =>
      if key = other then (key, settle held span) :: rest
      else if key < other then (key, span) :: (other, held) :: rest
      else (other, held) :: place settle key span rest

/-- The map with an entry, which takes the place of an earlier one. -/
def insert (map : Quotes) (key span : Text) : Quotes :=
  ⟨place (fun _ new => new) key span map.entries⟩

/-- The map with an entry, unless the placeholder has one. -/
def insertNew (map : Quotes) (key span : Text) : Quotes :=
  ⟨place (fun held _ => held) key span map.entries⟩

/-- The map of a list of entries, of which later ones win. -/
def ofEntries (entries : List (Text × Text)) : Quotes :=
  entries.foldl (fun map entry => map.insert entry.1 entry.2) empty

end Quotes

end RunLine
