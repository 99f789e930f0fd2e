import RunLine.Program
import RunLine.Proofs.Json.Collections
import RunLine.Proofs.Quote.RoundTrip

/-!
# The report is read back

The report of a line is the JSON text of its shielding, and the map that is cut out of it restores
what the shielding hid.  So a line can be shielded by one run and restored by another.
-/

namespace RunLine

namespace Quotes

/-! ## Maps as objects -/

variable {settle : Text → Text → Text} {key span : Text} {entries : List (Text × Text)}

theorem place_of_above (above : ∀ entry ∈ entries, entry.1 < key) :
    place settle key span entries = entries ++ [(key, span)] := by
  induction entries with
  | nil => rfl
  | cons first rest ih =>
      rcases first with ⟨other, held⟩
      have firstAbove : other < key := above (other, held) (by simp)
      have restAbove := ih fun entry member => above entry (by simp [member])
      rw [place, if_neg (ne_of_gt firstAbove), if_neg (lt_asymm firstAbove), restAbove]
      rfl

/-- Entries in ascending order are placed one after the other. -/
theorem foldl_insert_of_ascending {done : List (Text × Text)}
    (ascending : Ascending (done ++ entries)) :
    entries.foldl (fun (map : Quotes) entry => map.insert entry.1 entry.2) ⟨done⟩ =
      ⟨done ++ entries⟩ := by
  induction entries generalizing done with
  | nil => rw [List.append_nil, List.foldl_nil]
  | cons entry entries ih =>
      have above : ∀ other ∈ done, other.1 < entry.1 := by
        intro other member
        exact (List.pairwise_append.mp ascending).2.2 other member entry (by simp)
      rw [List.append_cons] at ascending ⊢
      rw [List.foldl_cons, insert, place_of_above above, ih ascending]

theorem ofEntries_of_ascending (ascending : Ascending entries) : ofEntries entries = ⟨entries⟩ := by
  have inserted : Ascending ([] ++ entries) := ascending
  exact foldl_insert_of_ascending inserted

/-- The map is found again in the object made of it. -/
theorem ofJson?_toJson {quotes : Quotes} (ascending : Ascending quotes.entries) :
    ofJson? quotes.toJson = some quotes := by
  have strings : quotes.toJson.asStrings? = some quotes.entries := by
    have each : ((fun member : Text × Json => (member.2.asString?).map (member.1, ·)) ∘
        fun entry : Text × Text => (entry.1, Json.string entry.2)) = some := by
      funext entry
      rfl
    rw [toJson, Json.asStrings?, List.mapM_map, each]
    simpa using List.mapM_pure (m := Option) (l := quotes.entries) (f := id)
  rw [ofJson?, strings, Option.map_some, ofEntries_of_ascending ascending]

theorem readsBack_toJson (quotes : Quotes) (nesting : Nat) (layout : Json.Layout) (depth : Nat) :
    Json.ReadsBack (Json.readValue (nesting + 1)) '}' quotes.toJson
      (Json.write layout depth quotes.toJson) := by
  apply Json.readsBack_object
  intro member inMembers
  rcases List.mem_map.mp inMembers with ⟨entry, -, rfl⟩
  exact Json.readsBack_string nesting layout (depth + 1) entry.2

end Quotes

namespace Quote

/-! ## The report -/

theorem read?_report (line : Text) : Json.read? (report line) = some (shield line).toJson := by
  apply Json.ReadsBack.read?_eq
  apply Json.readsBack_object 126 .pretty 0
  intro member inMembers
  cases inMembers with
  | head => exact (shield line).quotes.readsBack_toJson 125 .pretty 1
  | tail _ inRest =>
      cases inRest with
      | head => exact Json.readsBack_string 126 .pretty 1 (shield line).text
      | tail _ none => cases none

/-- The map is shown as part of the report. -/
theorem write_quotes_infix_report (line : Text) :
    Json.write .pretty 1 (shield line).quotes.toJson <:+: report line := by
  have inReport : (Text.lit "quotes", (shield line).quotes.toJson) ∈
      [(Text.lit "quotes", (shield line).quotes.toJson),
        (Text.lit "shielded", Json.string (shield line).text)] := List.mem_cons_self
  exact Json.infix_write_object inReport .pretty 0

/-- Restoring from the written map is restoring by the map. -/
theorem restoreFrom?_write (line text : Text) (layout : Json.Layout) (depth : Nat) :
    restoreFrom? (Json.write layout depth (shield line).quotes.toJson) text =
      some (restore (shield line).quotes text) := by
  have read := ((shield line).quotes.readsBack_toJson 126 layout depth).read?_eq
  have found : Quotes.ofJson? (shield line).quotes.toJson = some (shield line).quotes :=
    Quotes.ofJson?_toJson (ascending_quotesOf line)
  rw [restoreFrom?, read, Option.bind_eq_bind, Option.bind_some, found]
  rfl

/-- The report of a line states the shielded text and the entries of its map, and nothing else.  The
map, cut out of the report or written in either layout, restores the shielded text as the entries
do.  Where shielding is undone by its entries, a run that restores prints the line that a run before
it shielded. -/
theorem report_read_back (line : Text) :
    ∃ quotes : Json,
      Json.read? (report line) =
          some (.object
            [(Text.lit "quotes", quotes), (Text.lit "shielded", .string (shield line).text)]) ∧
        quotes =
          .object ((shield line).quotes.entries.map fun entry => (entry.1, .string entry.2)) ∧
        Json.write .pretty 1 quotes <:+: report line ∧
        (∀ layout depth,
          restoreFrom? (Json.write layout depth quotes) (shield line).text =
            some (restore (shield line).quotes (shield line).text)) ∧
        (Fresh line →
          (∀ entry ∈ (shield line).quotes.entries, OnlyWritten entry (written line)) →
            ∀ host stdin layout depth,
              (Command.execute host stdin (.shield line)).1 =
                  .printed (Command.lines [report line]) ∧
                (Command.execute host stdin
                    (.restore (shield line).text (Json.write layout depth quotes))).1 =
                  .printed (Command.lines [line])) := by
  have shown := write_quotes_infix_report line
  refine ⟨(shield line).quotes.toJson, read?_report line, rfl, shown, ?_, ?_⟩
  · intro layout depth
    exact restoreFrom?_write line (shield line).text layout depth
  · intro fresh only host stdin layout depth
    constructor
    · rfl
    · have restored := restoreFrom?_write line (shield line).text layout depth
      rw [restore_shield fresh only] at restored
      rw [Command.execute, restored]

/-- A line with two spans, a newline, a backslash, a control character and a letter beyond ASCII. -/
def sampleLine : Text := Text.lit "é \"a\\\x01\"\n|\"|\""

theorem report_read_back_sample :
    Fresh sampleLine ∧
      (∀ entry ∈ (shield sampleLine).quotes.entries, OnlyWritten entry (written sampleLine)) ∧
      (Command.execute ⟨.empty, .root, none, [], none, none, none, none, none⟩ []
          (.restore (shield sampleLine).text (shield sampleLine).quotes.toJson.compact)).1 =
        .printed (Command.lines [sampleLine]) := by
  have fresh : Fresh sampleLine := by decide +kernel
  have only : ∀ entry ∈ (shield sampleLine).quotes.entries,
      OnlyWritten entry (written sampleLine) := by decide +kernel
  rcases report_read_back sampleLine with ⟨quotes, -, rfl, -, -, runs⟩
  exact ⟨fresh, only, (runs fresh only _ [] .compact 0).2⟩

end Quote

end RunLine
