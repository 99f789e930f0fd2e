import RunLine.Proofs.Text.Cutting
import RunLine.Text.Replace

/-!
# Substitution among the parts of a text

A text can be composed of parts, each of which renders as a piece of the text.  Substituting among
the parts is then substituting in the text, provided that the pattern is never read across the
borders of the parts.  This module states that simulation, and it says which occurrences of its
pattern a substitution takes: none that overlaps one taken before, and every other one.
-/

namespace RunLine.Text

variable {α β γ : Type}

/-! ## Two ways of cutting one text -/

/-- Two letters picked from one text are the same letter, or one of them stands before the other. -/
theorem append_cons_eq_append_cons {left left' right right' : List α} {letter letter' : α}
    (same : left ++ letter :: right = left' ++ letter' :: right') :
    (left = left' ∧ letter = letter' ∧ right = right') ∨
      left ++ [letter] <+: left' ∨ left' ++ [letter'] <+: left := by
  rcases List.append_eq_append_iff.mp same with ⟨gap, gapEq, restEq⟩ | ⟨gap, gapEq, restEq⟩
  · cases gap with
    | nil =>
        left
        simp only [List.nil_append, List.cons.injEq] at restEq
        exact ⟨by simpa using gapEq.symm, restEq⟩
    | cons first gap =>
        right; left
        simp only [List.cons_append, List.cons.injEq] at restEq
        exact ⟨gap, by simp [gapEq, restEq.1]⟩
  · cases gap with
    | nil =>
        left
        simp only [List.nil_append, List.cons.injEq] at restEq
        exact ⟨by simpa using gapEq, restEq.1.symm, restEq.2.symm⟩
    | cons first gap =>
        right; right
        simp only [List.cons_append, List.cons.injEq] at restEq
        exact ⟨gap, by simp [gapEq, restEq.1]⟩

/-- An occurrence of a key lies on one side of every letter that the key does not hold. -/
theorem occurrence_beside {before key after left right : List α} {barrier : α}
    (same : before ++ key ++ after = left ++ barrier :: right) (absent : barrier ∉ key) :
    (∃ gap, left = before ++ key ++ gap ∧ after = gap ++ barrier :: right) ∨
      (∃ gap, before = left ++ barrier :: gap ∧ right = gap ++ key ++ after) := by
  rcases List.append_eq_append_iff.mp same with ⟨gap, leftEq, afterEq⟩ | ⟨gap, coveredEq, restEq⟩
  · exact Or.inl ⟨gap, leftEq, afterEq⟩
  · cases gap with
    | nil => exact Or.inl ⟨[], by simpa using coveredEq.symm, by simpa using restEq.symm⟩
    | cons first gap =>
        simp only [List.cons_append, List.cons.injEq] at restEq
        rcases restEq with ⟨rfl, rfl⟩
        rcases List.append_eq_append_iff.mp coveredEq with
          ⟨inner, _, keyEq⟩ | ⟨inner, beforeEq, keyEq⟩
        · exact absurd (keyEq ▸ by simp) absent
        · cases inner with
          | nil =>
              rw [List.nil_append] at keyEq
              exact absurd (by simp [← keyEq]) absent
          | cons first inner =>
              simp only [List.cons_append, List.cons.injEq] at keyEq
              rcases keyEq with ⟨rfl, rfl⟩
              exact Or.inr ⟨inner, beforeEq, by simp⟩

/-- An occurrence of a pattern whose first letter does not stand in the front begins behind it. -/
theorem infix_of_infix_append {pattern front rest : List α} {first : α}
    (starts : pattern.head? = some first) (absent : first ∉ front)
    (inside : pattern <:+: front ++ rest) : pattern <:+: rest := by
  induction front with
  | nil => exact inside
  | cons letter front ih =>
      rcases List.infix_cons_iff.mp inside with here | later
      · rcases List.head?_eq_some_iff.mp starts with ⟨others, rfl⟩
        rcases List.cons_prefix_cons.mp here with ⟨rfl, -⟩
        exact absurd List.mem_cons_self absent
      · exact ih (fun inFront => absent (List.mem_cons_of_mem _ inFront)) later

/-! ## Reading from the left -/

section Reading

variable [DecidableEq α] {pattern : List α}

/-- Substitution reads a text from the left and either takes a whole occurrence or passes by one
letter. -/
@[elab_as_elim] theorem replace_induction {motive : List α → Prop} (proper : pattern ≠ [])
    (nil : motive [])
    (taken : ∀ rest, motive rest → motive (pattern ++ rest))
    (kept : ∀ letter rest, ¬ pattern <+: letter :: rest → motive rest → motive (letter :: rest))
    (text : List α) : motive text := by
  induction sizeEq : text.length using Nat.strong_induction_on generalizing text with
  | _ size ih =>
      cases text with
      | nil => exact nil
      | cons letter rest =>
          by_cases front : pattern <+: letter :: rest
          · rcases front with ⟨after, afterEq⟩
            have shorter : after.length < size := by
              have positive := List.length_pos_iff.mpr proper
              rw [← sizeEq, ← afterEq, List.length_append]
              omega
            rw [← afterEq]
            exact taken after (ih after.length shorter after rfl)
          · exact kept letter rest front (ih rest.length (by simp [← sizeEq]) rest rfl)

/-- A text in which no occurrence starts is passed by as a whole. -/
theorem replace_append_of_absent (proper : pattern ≠ []) (replacement : List α)
    {front rest : List α}
    (absent : ∀ before after, front = before ++ after → after ≠ [] → ¬ pattern <+: after ++ rest) :
    replace pattern replacement (front ++ rest) = front ++ replace pattern replacement rest := by
  induction front with
  | nil => rfl
  | cons letter front ih =>
      have notHere : ¬ pattern <+: letter :: (front ++ rest) :=
        absent [] (letter :: front) rfl (by simp)
      rw [List.cons_append, replace_cons proper replacement notHere, ih]
      · rfl
      · intro before after frontEq nonempty
        exact absent (letter :: before) after (by simp [frontEq]) nonempty

/-- An occurrence is taken, unless one that starts before it and overlaps it is. -/
theorem exists_taken (proper : pattern ≠ []) (replacement : List α) {text before after : List α}
    (occurrence : text = before ++ pattern ++ after) :
    ∃ left right, text = left ++ pattern ++ right ∧
      left <+: before ∧ before.length < left.length + pattern.length ∧
      replace pattern replacement text =
        replace pattern replacement left ++ replacement ++ replace pattern replacement right := by
  induction text using replace_induction proper generalizing before with
  | nil => simp [proper] at occurrence
  | taken rest ih =>
      by_cases inside : before.length < pattern.length
      · refine ⟨[], rest, by simp, List.nil_prefix, by simpa using inside, ?_⟩
        rw [replace_append proper, replace_nil proper, List.nil_append]
      · have covered : pattern <+: before := by
          refine List.prefix_of_prefix_length_le (List.prefix_append pattern rest) ?_
            (Nat.le_of_not_lt inside)
          rw [occurrence, List.append_assoc]
          exact List.prefix_append _ _
        rcases covered with ⟨inner, rfl⟩
        have restEq : rest = inner ++ pattern ++ after := by simpa using occurrence
        rcases ih restEq with ⟨left, right, cut, starts, overlaps, outcome⟩
        refine ⟨pattern ++ left, right, by simp [cut], ?_, ?_, ?_⟩
        · exact (List.prefix_append_right_inj pattern).mpr starts
        · simp only [List.length_append]
          omega
        · rw [replace_append proper, outcome, replace_append proper]
          simp
  | kept letter rest absent ih =>
      cases before with
      | nil => exact absurd ⟨after, by simpa using occurrence.symm⟩ absent
      | cons first inner =>
          simp only [List.cons_append, List.cons.injEq] at occurrence
          rcases occurrence with ⟨rfl, restEq⟩
          rcases ih restEq with ⟨left, right, cut, starts, overlaps, outcome⟩
          refine ⟨letter :: left, right, by simp [cut], ?_, ?_, ?_⟩
          · exact (List.prefix_cons_inj letter).mpr starts
          · simp only [List.length_cons]
            omega
          · have leftAbsent : ¬ pattern <+: letter :: left := by
              intro front
              apply absent
              rw [cut, List.append_assoc, ← List.cons_append]
              exact front.trans (List.prefix_append _ _)
            rw [replace_cons proper replacement absent, outcome,
              replace_cons proper replacement leftAbsent]
            simp

/-- Where every occurrence of the pattern starts within a marked block, exactly the marked blocks
are taken. -/
theorem replace_flatMap (proper : pattern ≠ []) (replacement : List α) (marked : γ → Prop)
    [DecidablePred marked] (block : γ → List α) (items : List γ)
    (whole : ∀ item ∈ items, marked item → block item = pattern)
    (absent : ∀ left item right before after, items = left ++ item :: right → ¬ marked item →
      block item = before ++ after → after ≠ [] → ¬ pattern <+: after ++ right.flatMap block) :
    replace pattern replacement (items.flatMap block) =
      items.flatMap fun item => if marked item then replacement else block item := by
  induction items with
  | nil => simp [proper]
  | cons item items ih =>
      have tail := ih (fun other member => whole other (by simp [member]))
        (fun left other right before after cut =>
          absent (item :: left) other right before after (by simp [cut]))
      simp only [List.flatMap_cons]
      by_cases isMarked : marked item
      · rw [whole item (by simp) isMarked, replace_append proper, tail]
        simp [isMarked]
      · rw [replace_append_of_absent proper, tail]
        · simp [isMarked]
        · intro before after blockEq nonempty
          exact absent [] item items before after rfl isMarked blockEq nonempty

/-- Substitution of parts that render alike changes nothing in the rendered text. -/
theorem flatMap_replace_of_eq (proper : pattern ≠ []) {replacement : List α} {render : α → List β}
    (same : pattern.flatMap render = replacement.flatMap render) (parts : List α) :
    (replace pattern replacement parts).flatMap render = parts.flatMap render := by
  induction parts using replace_induction proper with
  | nil => simp [proper]
  | taken rest ih => rw [replace_append proper, List.flatMap_append, List.flatMap_append, ih, same]
  | kept part rest absent ih =>
      rw [replace_cons proper replacement absent, List.flatMap_cons, List.flatMap_cons, ih]

/-- No occurrence reaches across a letter that the pattern does not hold. -/
theorem replace_append_cons (proper : pattern ≠ []) (replacement : List α) {barrier : α}
    (absent : barrier ∉ pattern) (left right : List α) :
    replace pattern replacement (left ++ barrier :: right) =
      replace pattern replacement left ++ barrier :: replace pattern replacement right := by
  induction left using replace_induction proper with
  | nil =>
      have notHere : ¬ pattern <+: barrier :: right := by
        intro front
        cases pattern with
        | nil => exact proper rfl
        | cons first others =>
            rcases List.cons_prefix_cons.mp front with ⟨rfl, -⟩
            exact absent List.mem_cons_self
      rw [List.nil_append, replace_cons proper replacement notHere, replace_nil proper,
        List.nil_append]
  | taken rest ih =>
      rw [List.append_assoc, replace_append proper, ih, replace_append proper, List.append_assoc]
  | kept letter rest notHere ih =>
      have notAcross : ¬ pattern <+: letter :: (rest ++ barrier :: right) := by
        rintro ⟨after, read⟩
        rw [← List.cons_append, ← List.nil_append pattern] at read
        rcases occurrence_beside read absent with ⟨gap, leftEq, -⟩ | ⟨gap, beforeEq, -⟩
        · exact notHere ⟨gap, by simpa using leftEq.symm⟩
        · simp at beforeEq
      rw [List.cons_append, replace_cons proper replacement notAcross, ih,
        replace_cons proper replacement notHere, List.cons_append]

/-- Substitution brings in nothing but the replacement. -/
theorem mem_replace (proper : pattern ≠ []) {replacement parts : List α} {part : α}
    (member : part ∈ replace pattern replacement parts) : part ∈ replacement ∨ part ∈ parts := by
  induction parts using replace_induction proper with
  | nil => simp [proper] at member
  | taken rest ih =>
      rw [replace_append proper, List.mem_append] at member
      rcases member with inReplacement | inRest
      · exact Or.inl inReplacement
      · exact (ih inRest).imp_right fun held => by simp [held]
  | kept other rest absent ih =>
      rw [replace_cons proper replacement absent, List.mem_cons] at member
      rcases member with rfl | inRest
      · exact Or.inr (by simp)
      · exact (ih inRest).imp_right fun held => by simp [held]

/-- What starts a substituted text and lacks the first letter of the replacement starts the text
itself. -/
theorem prefix_of_prefix_replace (proper : pattern ≠ []) {replacement front text : List α}
    {first : α} (starts : replacement.head? = some first) (absent : first ∉ front)
    (read : front <+: replace pattern replacement text) : front <+: text := by
  induction text using replace_induction proper generalizing front with
  | nil => rwa [replace_nil proper] at read
  | taken rest _ =>
      rw [replace_append proper] at read
      rcases List.head?_eq_some_iff.mp starts with ⟨others, rfl⟩
      cases front with
      | nil => exact List.nil_prefix
      | cons letter front =>
          rcases List.cons_prefix_cons.mp read with ⟨rfl, -⟩
          exact absurd List.mem_cons_self absent
  | kept letter rest notHere ih =>
      rw [replace_cons proper replacement notHere] at read
      cases front with
      | nil => exact List.nil_prefix
      | cons other front =>
          rcases List.cons_prefix_cons.mp read with ⟨rfl, inRest⟩
          exact (List.prefix_cons_inj other).mpr
            (ih (fun inFront => absent (List.mem_cons_of_mem _ inFront)) inRest)

/-- Where pattern and replacement each start with a letter that the other lacks, no occurrence is
left over and none arises: one that began in a replacement would start with the first letter of the
pattern, and one that reached into a replacement would hold its first letter. -/
theorem not_infix_replace {replacement : List α} {first first' : α}
    (starts : pattern.head? = some first) (starts' : replacement.head? = some first')
    (absent : first ∉ replacement) (absent' : first' ∉ pattern) (text : List α) :
    ¬ pattern <:+: replace pattern replacement text := by
  have proper : pattern ≠ [] := by
    rintro rfl
    simp at starts
  induction text using replace_induction proper with
  | nil => simp [proper]
  | taken rest ih =>
      rw [replace_append proper]
      intro inside
      exact ih (infix_of_infix_append starts absent inside)
  | kept letter rest notHere ih =>
      rw [replace_cons proper replacement notHere, List.infix_cons_iff]
      rintro (here | later)
      · apply notHere
        rw [← replace_cons proper replacement notHere] at here
        exact prefix_of_prefix_replace proper starts' absent' here
      · exact ih later

/-- Substitution cuts a text at occurrences of the pattern until no piece holds one, and joins the
pieces by the replacement. -/
theorem exists_pieces (proper : pattern ≠ []) (replacement text : List α) :
    ∃ pieces, pieces ≠ [] ∧ (∀ piece ∈ pieces, ¬ pattern <:+: piece) ∧
      text = pattern.intercalate pieces ∧
      replace pattern replacement text = replacement.intercalate pieces := by
  induction text using replace_induction proper with
  | nil => exact ⟨[[]], by simp, by simpa using proper, by simp, by simp [proper]⟩
  | taken rest ih =>
      rcases ih with ⟨pieces, some, free, restEq, outcome⟩
      refine ⟨[] :: pieces, by simp, by simpa [proper] using free, ?_, ?_⟩
      · rw [List.intercalate_cons_of_ne_nil some, ← restEq, List.nil_append]
      · rw [replace_append proper, outcome, List.intercalate_cons_of_ne_nil some, List.nil_append]
  | kept letter rest notHere ih =>
      rcases ih with ⟨pieces, some, free, restEq, outcome⟩
      cases pieces with
      | nil => exact absurd rfl some
      | cons piece pieces =>
          rw [List.forall_mem_cons] at free
          refine ⟨(letter :: piece) :: pieces, by simp, ?_, ?_, ?_⟩
          · refine List.forall_mem_cons.mpr ⟨?_, free.2⟩
            rw [List.infix_cons_iff]
            rintro (here | later)
            · apply notHere
              rw [restEq, ← List.intercalate_cons_cons_left]
              exact here.trans (prefix_intercalate pattern (letter :: piece) pieces)
            · exact free.1 later
          · rw [restEq, List.intercalate_cons_cons_left]
          · rw [replace_cons proper replacement notHere, outcome, List.intercalate_cons_cons_left]

/-- Only the empty text is substituted by the empty text. -/
theorem replace_eq_nil_iff (proper : pattern ≠ []) {replacement text : List α}
    (visible : replacement ≠ []) : replace pattern replacement text = [] ↔ text = [] := by
  induction text using replace_induction proper with
  | nil => simp [proper]
  | taken rest _ => simp [replace_append proper, visible, proper]
  | kept letter rest notHere _ => simp [replace_cons proper replacement notHere]

/-- A letter that the replacement does not hold can only become rarer. -/
theorem count_replace_le (proper : pattern ≠ []) {replacement : List α} {letter : α}
    (absent : letter ∉ replacement) (text : List α) :
    (replace pattern replacement text).count letter ≤ text.count letter := by
  induction text using replace_induction proper with
  | nil => simp [proper]
  | taken rest ih =>
      rw [replace_append proper, List.count_append, List.count_append,
        List.count_eq_zero.mpr absent]
      omega
  | kept other rest notHere ih =>
      rw [replace_cons proper replacement notHere, List.count_cons, List.count_cons]
      omega

theorem count_replace_lt (proper : pattern ≠ []) {replacement text : List α} {letter : α}
    (absent : letter ∉ replacement) (held : letter ∈ pattern) (inside : pattern <:+: text) :
    (replace pattern replacement text).count letter < text.count letter := by
  rcases inside with ⟨before, after, read⟩
  rcases exists_taken proper replacement read.symm with ⟨left, right, cut, -, -, outcome⟩
  have leftBelow := count_replace_le proper absent left
  have rightBelow := count_replace_le proper absent right
  have positive := List.count_pos_iff.mpr held
  rw [outcome, cut]
  simp only [List.count_append, List.count_eq_zero.mpr absent]
  omega

end Reading

/-! ## Parts and their rendering -/

section Rendering

variable [DecidableEq α] [DecidableEq β] {pattern : List α}

/-- Wherever the rendered pattern can be read in a rendered text, it starts with a part, and the
pattern itself stands there. -/
def ReadWhole (render : α → List β) (pattern parts : List α) : Prop :=
  ∀ left part right before after, parts = left ++ part :: right →
    render part = before ++ after → after ≠ [] →
    pattern.flatMap render <+: after ++ right.flatMap render →
    before = [] ∧ pattern <+: part :: right

/-- Substitution among parts is substitution in the rendered text. -/
theorem flatMap_replace {render : α → List β} (proper : pattern.flatMap render ≠ [])
    (replacement : List α) {parts : List α} (whole : ReadWhole render pattern parts) :
    (replace pattern replacement parts).flatMap render =
      replace (pattern.flatMap render) (replacement.flatMap render) (parts.flatMap render) := by
  have properParts : pattern ≠ [] := by
    rintro rfl
    exact proper rfl
  induction parts using replace_induction properParts with
  | nil => simp [properParts, proper]
  | taken rest ih =>
      have restWhole : ReadWhole render pattern rest := by
        intro left part right before after cut
        exact whole (pattern ++ left) part right before after (by simp [cut])
      rw [replace_append properParts, List.flatMap_append, List.flatMap_append,
        replace_append proper, ih restWhole]
  | kept part rest absent ih =>
      have restWhole : ReadWhole render pattern rest := by
        intro left other right before after cut
        exact whole (part :: left) other right before after (by simp [cut])
      rw [replace_cons properParts replacement absent, List.flatMap_cons, List.flatMap_cons,
        ih restWhole, replace_append_of_absent proper]
      intro before after partEq nonempty front
      exact absent (whole [] part rest before after rfl partEq nonempty front).2

end Rendering

end RunLine.Text
