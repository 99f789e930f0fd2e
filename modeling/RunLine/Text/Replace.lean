import RunLine.Text
/-!
# Substitution in a text

Every occurrence of a pattern is replaced, from left to right and without overlaps.  The empty
pattern stands between any two characters and at both ends, so it is replaced there.  Nothing here
depends on what the characters are; a list of anything that can be compared will do for a text.
-/

namespace RunLine.Text

variable {α : Type}

/-- The text with a separator put before every character and at the end. -/
def interleave (filler : List α) : List α → List α
  | [] => filler
  | letter :: rest => filler ++ letter :: interleave filler rest

variable [DecidableEq α]

/-- Substitution for a pattern that is not empty, where so many characters of the text still belong
to the occurrence that was replaced last. -/
def replaceAfter (pattern replacement : List α) : Nat → List α → List α
  | _, [] => []
  | covered + 1, _ :: rest => replaceAfter pattern replacement covered rest
  | 0, letter :: rest =>
      if pattern.isPrefixOf (letter :: rest) then
        replacement ++ replaceAfter pattern replacement (pattern.length - 1) rest
      else letter :: replaceAfter pattern replacement 0 rest

/-- The text with every occurrence of the pattern replaced. -/
def replace (pattern replacement text : List α) : List α :=
  if pattern.isEmpty then interleave replacement text
  else replaceAfter pattern replacement 0 text

theorem replaceAfter_eq_drop (pattern replacement : List α) (covered : Nat) (text : List α) :
    replaceAfter pattern replacement covered text =
      replaceAfter pattern replacement 0 (text.drop covered) := by
  induction covered generalizing text with
  | zero => simp
  | succ covered ih =>
      cases text with
      | nil => simp [replaceAfter]
      | cons letter rest => simpa [replaceAfter] using ih rest

@[simp] theorem replace_nil {pattern replacement : List α} (proper : pattern ≠ []) :
    replace pattern replacement [] = [] := by
  simp [replace, proper, replaceAfter]

/-- An occurrence at the front is replaced as a whole. -/
theorem replace_append {pattern : List α} (proper : pattern ≠ []) (replacement rest : List α) :
    replace pattern replacement (pattern ++ rest) = replacement ++ replace pattern replacement rest := by
  cases pattern with
  | nil => exact absurd rfl proper
  | cons first others =>
      have front : (first :: others).isPrefixOf (first :: (others ++ rest)) = true := by simp
      simp only [replace, List.isEmpty_cons, Bool.false_eq_true, if_false, List.cons_append]
      rw [replaceAfter, if_pos front, replaceAfter_eq_drop]
      simp

/-- A character at which no occurrence starts is kept. -/
theorem replace_cons {pattern : List α} (proper : pattern ≠ []) (replacement : List α) {letter : α}
    {rest : List α} (absent : ¬ pattern <+: letter :: rest) :
    replace pattern replacement (letter :: rest) = letter :: replace pattern replacement rest := by
  have front : pattern.isPrefixOf (letter :: rest) = false :=
    Bool.eq_false_iff.mpr fun found => absent (List.isPrefixOf_iff_prefix.mp found)
  simp [replace, proper, replaceAfter, front]

/-- A text without the pattern is left as it is. -/
theorem replace_of_not_infix {pattern : List α} (proper : pattern ≠ []) (replacement : List α)
    {text : List α} (absent : ¬ pattern <:+: text) : replace pattern replacement text = text := by
  induction text with
  | nil => exact replace_nil proper
  | cons letter rest ih =>
      rw [replace_cons proper replacement (fun front => absent front.isInfix),
        ih (fun inner => absent (List.infix_cons inner))]

end RunLine.Text
