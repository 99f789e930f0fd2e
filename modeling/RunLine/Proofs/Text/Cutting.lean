import Mathlib.Data.List.Infix
import RunLine.Text

/-!
# Cutting and joining the parts of a text

Cutting a text at a separator and joining the pieces again commute with rendering the parts that the
text is composed of, provided that the separator is a part of its own and no other part shows it.
-/

namespace RunLine.Text

variable {α β : Type}

/-- A front without the separator belongs to the first piece. -/
theorem splitOn_append_of_not_mem [BEq β] [LawfulBEq β] {separator : β} {front : List β}
    (absent : separator ∉ front) (rest : List β) :
    (front ++ rest).splitOn separator = (rest.splitOn separator).modifyHead (front ++ ·) := by
  induction front with
  | nil =>
      rw [List.nil_append]
      exact (congrFun List.modifyHead_id _).symm
  | cons letter front ih =>
      simp only [List.mem_cons, not_or] at absent
      rw [List.cons_append, List.splitOn_cons_eq_if_modifyHead, ih absent.2]
      rw [if_neg (by simpa using Ne.symm absent.1), List.modifyHead_modifyHead]
      rfl

/-- Cutting the rendered text is rendering what is cut among the parts. -/
theorem splitOn_flatMap [BEq α] [LawfulBEq α] [BEq β] [LawfulBEq β] {render : α → List β}
    {separator : α} {shown : β} (alone : render separator = [shown]) {parts : List α}
    (absent : ∀ part ∈ parts, part ≠ separator → shown ∉ render part) :
    (parts.flatMap render).splitOn shown =
      (parts.splitOn separator).map (List.flatMap render) := by
  induction parts with
  | nil => simp
  | cons part parts ih =>
      rw [List.forall_mem_cons] at absent
      rw [List.flatMap_cons, List.splitOn_cons_eq_if_modifyHead]
      by_cases isSeparator : part = separator
      · subst isSeparator
        rw [alone, List.singleton_append, List.splitOn_cons_eq_if_modifyHead, ih absent.2]
        simp
      · rw [splitOn_append_of_not_mem (absent.1 isSeparator), ih absent.2,
          if_neg (by simpa using isSeparator)]
        cases parts.splitOn separator with
        | nil => rfl
        | cons piece pieces => simp

/-- Rendering joined pieces is joining the rendered ones. -/
theorem flatMap_intercalate (render : α → List β) (separator : List α) (pieces : List (List α)) :
    (separator.intercalate pieces).flatMap render =
      (separator.flatMap render).intercalate (pieces.map (List.flatMap render)) := by
  induction pieces with
  | nil => rfl
  | cons piece pieces ih =>
      cases pieces with
      | nil => simp
      | cons second pieces =>
          rw [List.intercalate_cons_cons, List.flatMap_append, List.flatMap_append, ih]
          simp only [List.map_cons]
          rw [List.intercalate_cons_cons]

/-- Two lots of pieces are joined with one separator between them. -/
theorem intercalate_append (separator : List α) {left right : List (List α)} (leftSome : left ≠ [])
    (rightSome : right ≠ []) :
    separator.intercalate (left ++ right) =
      separator.intercalate left ++ separator ++ separator.intercalate right := by
  induction left with
  | nil => exact absurd rfl leftSome
  | cons piece left ih =>
      cases left with
      | nil =>
          rw [List.singleton_append, List.intercalate_cons_of_ne_nil rightSome,
            List.intercalate_singleton]
      | cons second left =>
          rw [List.cons_append, List.cons_append, List.intercalate_cons_cons, ← List.cons_append,
            ih (List.cons_ne_nil _ _), List.intercalate_cons_cons]
          simp only [List.append_assoc]

/-- Joined pieces are as long as they are together, with a separator between any two of them. -/
theorem length_intercalate (separator : List α) (pieces : List (List α)) :
    (separator.intercalate pieces).length =
      pieces.flatten.length + (pieces.length - 1) * separator.length := by
  induction pieces with
  | nil => simp
  | cons piece pieces ih =>
      cases pieces with
      | nil => simp
      | cons second pieces =>
          have flat : (piece :: second :: pieces).flatten = piece ++ (second :: pieces).flatten :=
            List.flatten_cons
          have oneMore : (piece :: second :: pieces).length - 1 =
              (second :: pieces).length - 1 + 1 := rfl
          rw [List.intercalate_cons_cons, List.length_append, List.length_append, ih, flat,
            List.length_append, oneMore, Nat.succ_mul]
          omega

/-- Joined pieces start with the first piece. -/
theorem prefix_intercalate (separator piece : List α) (pieces : List (List α)) :
    piece <+: separator.intercalate (piece :: pieces) := by
  cases pieces with
  | nil => rw [List.intercalate_singleton]
  | cons second pieces =>
      rw [List.intercalate_cons_cons, List.append_assoc]
      exact List.prefix_append _ _

/-- Joined pieces are the first one and the others, each after a separator. -/
theorem intercalate_cons_eq_flatMap (separator : α) (piece : List α) (pieces : List (List α)) :
    [separator].intercalate (piece :: pieces) = piece ++ pieces.flatMap (separator :: ·) := by
  induction pieces generalizing piece with
  | nil => simp
  | cons second pieces ih =>
      rw [List.intercalate_cons_cons, ih, List.flatMap_cons, List.append_assoc,
        List.singleton_append, List.cons_append]

/-- A letter of joined pieces belongs to a piece or to the separator. -/
theorem mem_intercalate {separator : List α} {pieces : List (List α)} {letter : α}
    (member : letter ∈ separator.intercalate pieces) :
    letter ∈ separator ∨ ∃ piece ∈ pieces, letter ∈ piece := by
  induction pieces with
  | nil => simp at member
  | cons piece pieces ih =>
      cases pieces with
      | nil => exact Or.inr ⟨piece, by simp, by simpa using member⟩
      | cons second pieces =>
          rw [List.intercalate_cons_cons, List.mem_append, List.mem_append] at member
          rcases member with (inPiece | inSeparator) | later
          · exact Or.inr ⟨piece, List.mem_cons_self, inPiece⟩
          · exact Or.inl inSeparator
          · rcases ih later with inSeparator | ⟨other, inPieces, inOther⟩
            · exact Or.inl inSeparator
            · exact Or.inr ⟨other, List.mem_cons_of_mem _ inPieces, inOther⟩

/-- A letter of a piece stands in the text that was cut. -/
theorem mem_of_mem_splitOn [BEq α] [LawfulBEq α] {separator letter : α} {text piece : List α}
    (isPiece : piece ∈ text.splitOn separator) (member : letter ∈ piece) : letter ∈ text := by
  rcases List.append_of_mem isPiece with ⟨left, right, cut⟩
  have whole : [separator].intercalate (text.splitOn separator) = text :=
    List.intercalate_splitOn separator
  rw [cut] at whole
  rw [← whole]
  cases left with
  | nil => exact (prefix_intercalate _ _ _).subset member
  | cons first left =>
      rw [intercalate_append _ (List.cons_ne_nil _ _) (List.cons_ne_nil _ _)]
      exact List.mem_append_right _ ((prefix_intercalate _ _ _).subset member)

/-- No piece holds the separator that was cut at. -/
theorem separator_not_mem_of_mem_splitOn [BEq α] [LawfulBEq α] {separator : α}
    {text piece : List α} (isPiece : piece ∈ text.splitOn separator) : separator ∉ piece := by
  induction text generalizing piece with
  | nil => simp_all
  | cons letter text ih =>
      rw [List.splitOn_cons_eq_if_modifyHead] at isPiece
      split at isPiece
      · rcases List.mem_cons.mp isPiece with rfl | later
        · exact List.not_mem_nil
        · exact ih later
      · next different =>
          cases cut : text.splitOn separator with
          | nil => simp [cut] at isPiece
          | cons first others =>
              rw [cut] at ih isPiece
              rcases List.mem_cons.mp isPiece with rfl | later
              · rw [List.mem_cons, not_or]
                exact ⟨fun same => different (by simp [same]), ih List.mem_cons_self⟩
              · exact ih (List.mem_cons_of_mem _ later)

/-! ## Functions that know nothing across a separator -/

section Parted

variable {f : List α → List β} {separator : α} {shown : β}

/-- What is done on each side of a separator by itself is done to the pieces. -/
theorem splitOn_of_parted [BEq α] [LawfulBEq α] [BEq β] [LawfulBEq β]
    (parted : ∀ left right, f (left ++ separator :: right) = f left ++ shown :: f right)
    (kept : ∀ piece, separator ∉ piece → shown ∉ f piece) (text : List α) :
    (f text).splitOn shown = (text.splitOn separator).map f := by
  induction sizeEq : text.length using Nat.strong_induction_on generalizing text with
  | _ size ih =>
      by_cases found : separator ∈ text
      · rcases List.append_of_mem found with ⟨left, right, rfl⟩
        rw [List.length_append, List.length_cons] at sizeEq
        rw [parted, List.splitOn_append_cons_self, List.splitOn_append_cons_self, List.map_append,
          ih left.length (by omega) left rfl, ih right.length (by omega) right rfl]
      · rw [List.splitOn_eq_singleton found, List.splitOn_eq_singleton (kept text found)]
        rfl

theorem intercalate_of_parted
    (parted : ∀ left right, f (left ++ separator :: right) = f left ++ shown :: f right)
    (nil : f [] = []) (pieces : List (List α)) :
    f ([separator].intercalate pieces) = [shown].intercalate (pieces.map f) := by
  induction pieces with
  | nil => simpa using nil
  | cons piece pieces ih =>
      cases pieces with
      | nil => simp
      | cons second pieces =>
          have some : (second :: pieces).map f ≠ [] := by simp
          rw [List.intercalate_cons_cons, List.append_assoc, List.singleton_append, parted, ih]
          show _ = [shown].intercalate (f piece :: (second :: pieces).map f)
          rw [List.intercalate_cons_of_ne_nil some, List.append_assoc]
          rfl

end Parted

end RunLine.Text
