import RunLine.Proofs.Quote.Segments
import RunLine.Proofs.Text.Cutting

/-!
# Commands and tokens of segments

A line of segments is cut where separators are bare, so a span is never cut.  What segments show is
cut at the same places, because a placeholder holds no separator.
-/

namespace RunLine.Quote

/-- The commands of a line and their tokens, cut at bare separators only. -/
def tokensOf (segments : List Segment) : List (List (List Segment)) :=
  (segments.splitOn (.bare '|')).map fun command => command.splitOn (.bare ' ')

/-- Commands and tokens with the separators between them. -/
def joinTokens {α : Type} (bar blank : α) (commands : List (List (List α))) : List α :=
  [bar].intercalate (commands.map [blank].intercalate)

theorem splitOn_shown {separator : Char} (noDigit : Text.digitValue? separator = none)
    (segments : List Segment) :
    (segments.flatMap Segment.shown).splitOn separator =
      (segments.splitOn (.bare separator)).map (List.flatMap Segment.shown) := by
  apply Text.splitOn_flatMap
  · rfl
  · intro segment _ different
    cases segment with
    | bare letter =>
        intro member
        apply different
        rw [List.mem_singleton.mp member]
    | quoted span => exact not_mem_placeholder noDigit span

/-- What segments show is cut where bare separators stand. -/
theorem cut_shown (segments : List Segment) :
    ((segments.flatMap Segment.shown).splitOn '|').map (fun command => command.splitOn ' ') =
      (tokensOf segments).map fun command => command.map (List.flatMap Segment.shown) := by
  rw [splitOn_shown (by decide), tokensOf, List.map_map, List.map_map]
  apply List.map_congr_left
  intro command _
  exact splitOn_shown (by decide) command

/-- Cutting loses nothing, neither empty tokens nor empty commands. -/
theorem joinTokens_tokensOf (segments : List Segment) :
    joinTokens (.bare '|') (.bare ' ') (tokensOf segments) = segments := by
  have commands : (tokensOf segments).map [Segment.bare ' '].intercalate =
      segments.splitOn (.bare '|') := by
    rw [tokensOf, List.map_map]
    conv_rhs => rw [← List.map_id (segments.splitOn (.bare '|'))]
    apply List.map_congr_left
    intro command _
    exact List.intercalate_splitOn (Segment.bare ' ')
  rw [joinTokens, commands]
  exact List.intercalate_splitOn (Segment.bare '|')

/-- A bar between two lots of commands is put back between them. -/
theorem joinTokens_append {α : Type} (bar blank : α) {left right : List (List (List α))}
    (leftSome : left ≠ []) (rightSome : right ≠ []) :
    joinTokens bar blank (left ++ right) =
      joinTokens bar blank left ++ bar :: joinTokens bar blank right := by
  have leftJoined : left.map [blank].intercalate ≠ [] := by simpa using leftSome
  have rightJoined : right.map [blank].intercalate ≠ [] := by simpa using rightSome
  rw [joinTokens, List.map_append, Text.intercalate_append _ leftJoined rightJoined,
    List.append_assoc]
  rfl

theorem tokensOf_append_bar (left right : List Segment) :
    tokensOf (left ++ .bare '|' :: right) = tokensOf left ++ tokensOf right := by
  rw [tokensOf, List.splitOn_append_cons_self, List.map_append]
  rfl

theorem tokensOf_ne_nil (line : List Segment) : tokensOf line ≠ [] := by
  rw [tokensOf, ne_eq, List.map_eq_nil_iff]
  exact List.splitOn_ne_nil _ _

/-- Joined tokens are rendered token by token. -/
theorem flatMap_joinTokens {β : Type} (render : Segment → List β)
    (commands : List (List (List Segment))) :
    (joinTokens (.bare '|') (.bare ' ') commands).flatMap render =
      (render (.bare '|')).intercalate (commands.map fun command =>
        (render (.bare ' ')).intercalate (command.map (List.flatMap render))) := by
  rw [joinTokens, Text.flatMap_intercalate, List.flatMap_singleton, List.map_map]
  apply congrArg
  apply List.map_congr_left
  intro command _
  rw [Function.comp_apply, Text.flatMap_intercalate, List.flatMap_singleton]

end RunLine.Quote
