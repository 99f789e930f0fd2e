import Mathlib.Data.List.Forall2
import RunLine.Proofs.Json.Encodings

/-!
# Objects are read back

What the writer puts around and between items, the reader takes off again: brackets, commas, colons
and, in the pretty layout, line ends and indents.  An object whose values are read back is read back
itself, in both layouts and at every depth, as long as it does not nest too deep.
-/

namespace RunLine.Json

/-- A reader takes the written form of a value whole and leaves what follows.  The form starts with
a character that is no blank and does not close the collection around it. -/
structure ReadsBack {α : Type} (reader : Reader α) (closing : Char) (value : α) (written : Text) :
    Prop where
  reads : ∀ rest, reader (written ++ rest) = some (value, rest)
  opens : ∃ letter tail, written = letter :: tail ∧ isBlank letter = false ∧ letter ≠ closing

variable {α : Type} {item : Reader α} {closing : Char} {value : α} {values : List α}
variable {first : Text} {others : List Text} {text lead trail : Text}

theorem ReadsBack.skipBlanks_append (readsBack : ReadsBack item closing value first) (rest : Text) :
    skipBlanks (first ++ rest) = first ++ rest := by
  rcases readsBack.opens with ⟨letter, tail, rfl, visible, -⟩
  exact skipBlanks_cons visible (tail ++ rest)

/-- Reading items starts by skipping blanks. -/
theorem readItems_skipBlanks (bound : Nat) (text : Text) :
    readItems item closing bound (skipBlanks text) = readItems item closing bound text := by
  cases bound with
  | zero => rfl
  | succ bound => rw [readItems, readItems, skipBlanks_idem]

theorem isBlank_of_mem_lead (layout : Layout) (depth : Nat) :
    ∀ letter ∈ layout.lead depth, isBlank letter = true := by
  intro letter member
  cases layout with
  | compact => cases member
  | pretty =>
      cases member with
      | head => rfl
      | tail _ inIndent =>
          rw [List.eq_of_mem_replicate inIndent]
          rfl

/-! ## Items -/

/-- Items between commas, less the first one. -/
def follow (lead : Text) (others : List Text) : Text :=
  others.flatMap fun other => ',' :: (lead ++ other)

theorem intercalate_comma (lead first : Text) (others : List Text) :
    [','].intercalate ((first :: others).map (lead ++ ·)) =
      lead ++ (first ++ follow lead others) := by
  induction others generalizing first with
  | nil => simp [follow]
  | cons other others ih =>
      rw [List.map_cons, List.intercalate_cons_of_ne_nil (by simp), ih]
      simp [follow]

theorem length_le_follow (lead : Text) (others : List Text) :
    others.length ≤ (follow lead others).length := by
  induction others with
  | nil => exact Nat.zero_le _
  | cons other others ih =>
      rw [follow, List.flatMap_cons, ← follow, List.length_append, List.length_cons,
        List.length_cons]
      omega

/-- Every item is shown within its brackets. -/
theorem infix_bracket {items : List Text} {shown : Text} (member : shown ∈ items) (layout : Layout)
    (depth : Nat) (opening closing : Char) :
    shown <:+: layout.bracket depth opening closing items := by
  cases items with
  | nil => cases member
  | cons first others =>
      have inItems : shown <:+: first ++ follow (layout.lead (depth + 1)) others := by
        cases member with
        | head => exact (List.prefix_append _ _).isInfix
        | tail _ inOthers =>
            have inItem : shown <:+: ',' :: (layout.lead (depth + 1) ++ shown) :=
              ⟨',' :: layout.lead (depth + 1), [], by simp⟩
            have inFollow : ',' :: (layout.lead (depth + 1) ++ shown) <:+:
                follow (layout.lead (depth + 1)) others := by
              rw [follow, List.flatMap_def]
              exact List.infix_of_mem_flatten (List.mem_map_of_mem inOthers)
            exact (inItem.trans inFollow).trans (List.suffix_append _ _).isInfix
      rw [Layout.bracket.eq_2 _ _ _ _ _ (List.cons_ne_nil _ _), intercalate_comma]
      refine inItems.trans ⟨opening :: layout.lead (depth + 1), layout.lead depth ++ [closing], ?_⟩
      simp

/-- Items that are read back one by one are read back up to the closing bracket. -/
theorem readItems_follow (closes : isBlank closing = false) (noComma : closing ≠ ',')
    (leadBlank : ∀ letter ∈ lead, isBlank letter = true)
    (trailBlank : ∀ letter ∈ trail, isBlank letter = true)
    (readsBack : ReadsBack item closing value first)
    (later : List.Forall₂ (ReadsBack item closing) values others) {bound : Nat}
    (enough : others.length < bound) (rest : Text) :
    readItems item closing bound
        (lead ++ (first ++ follow lead others) ++ (trail ++ closing :: rest)) =
      some (value :: values, rest) := by
  induction later generalizing value first bound with
  | nil =>
      cases bound with
      | zero => cases enough
      | succ bound =>
          rw [readItems, List.append_assoc, List.append_assoc, skipBlanks_append leadBlank,
            readsBack.skipBlanks_append, readsBack.reads]
          simp [follow, skipBlanks_append trailBlank, skipBlanks_cons closes]
  | @cons next written values others nextReadsBack _ ih =>
      cases bound with
      | zero => cases enough
      | succ bound =>
          have laterItems := ih nextReadsBack (Nat.lt_of_succ_lt_succ enough)
          rw [readItems, List.append_assoc, List.append_assoc, skipBlanks_append leadBlank,
            readsBack.skipBlanks_append, readsBack.reads]
          simp only [follow, List.flatMap_cons, List.cons_append, List.append_assoc] at laterItems ⊢
          simp [skipBlanks_cons (show isBlank ',' = false from rfl), Ne.symm noComma, laterItems]

/-- A collection is read back from behind its opening bracket. -/
theorem readCollection_bracket (closes : isBlank closing = false) (noComma : closing ≠ ',')
    (layout : Layout) (depth : Nat) (opening : Char) {written : List Text}
    (readsBack : List.Forall₂ (ReadsBack item closing) values written) :
    ∃ inside, layout.bracket depth opening closing written = opening :: inside ∧
      ∀ rest, readCollection item closing (inside ++ rest) = some (values, rest) := by
  have leadBlank := isBlank_of_mem_lead layout
  cases readsBack with
  | nil =>
      refine ⟨[closing], rfl, ?_⟩
      intro rest
      rw [List.singleton_append, readCollection, skipBlanks_cons closes]
      simp
  | @cons value first values others readsBack later =>
      refine ⟨_, rfl, ?_⟩
      intro rest
      have enough : others.length <
          (first ++ (follow (layout.lead (depth + 1)) others ++
            (layout.lead depth ++ closing :: rest))).length := by
        have following := length_le_follow (layout.lead (depth + 1)) others
        simp only [List.length_append, List.length_cons]
        omega
      have items := readItems_follow closes noComma (leadBlank (depth + 1)) (leadBlank depth)
        readsBack later enough rest
      rcases readsBack.opens with ⟨letter, tail, firstEq, visible, notClosing⟩
      rw [intercalate_comma]
      simp only [List.append_assoc, List.singleton_append] at items ⊢
      rw [← readItems_skipBlanks, skipBlanks_append (leadBlank (depth + 1))] at items
      rw [readCollection, skipBlanks_append (leadBlank (depth + 1))]
      simp only [firstEq, List.cons_append, skipBlanks_cons visible] at items ⊢
      rw [if_neg notClosing, items]

/-! ## Strings and objects -/

theorem readsBack_string (nesting : Nat) (layout : Layout) (depth : Nat) (string : Text) :
    ReadsBack (readValue nesting) '}' (.string string) (write layout depth (.string string)) where
  reads rest := by
    rw [write, quoted, List.cons_append, List.append_assoc, readValue_quote,
      List.singleton_append, (spells_escaped string).readString, Option.map_some]
  opens := ⟨'"', _, by rw [write, quoted], rfl, by decide⟩

/-- A member is read back if its value is. -/
theorem readsBack_member {reader : Reader Json} {content : Json} {written : Text}
    (readsBack : ReadsBack reader '}' content written) (layout : Layout) (name : Text) :
    ReadsBack (readMember reader) '}' (name, content) (quoted name ++ layout.colon ++ written) where
  reads rest := by
    have colonEq : ∃ blanks, layout.colon = ':' :: blanks ∧
        ∀ letter ∈ blanks, isBlank letter = true := by
      cases layout with
      | compact => exact ⟨[], rfl, by simp⟩
      | pretty => exact ⟨[' '], rfl, by simp [isBlank]⟩
    rcases colonEq with ⟨blanks, colonEq, blanksBlank⟩
    rw [quoted, colonEq]
    simp only [List.cons_append, List.append_assoc, List.nil_append]
    rw [readMember, (spells_escaped name).readString]
    simp only [Option.bind_eq_bind, Option.bind_some]
    rw [skipBlanks_cons rfl]
    simp only
    rw [skipBlanks_append blanksBlank, readsBack.skipBlanks_append, readsBack.reads]
    rfl
  opens := ⟨'"', _, by rw [quoted]; rfl, rfl, by decide⟩

theorem writeMembers_eq_map (layout : Layout) (depth : Nat) (members : List (Text × Json)) :
    writeMembers layout depth members =
      members.map fun member =>
        quoted member.1 ++ layout.colon ++ write layout depth member.2 := by
  induction members with
  | nil => rw [writeMembers, List.map_nil]
  | cons member members ih =>
      rcases member with ⟨name, value⟩
      rw [writeMembers, List.map_cons, ih]

/-- The form of a value is shown within the form of its object. -/
theorem infix_write_object {member : Text × Json} {members : List (Text × Json)}
    (inMembers : member ∈ members) (layout : Layout) (depth : Nat) :
    write layout (depth + 1) member.2 <:+: write layout depth (.object members) := by
  rw [write, writeMembers_eq_map]
  have inMember : write layout (depth + 1) member.2 <:+:
      quoted member.1 ++ layout.colon ++ write layout (depth + 1) member.2 :=
    (List.suffix_append _ _).isInfix
  apply inMember.trans
  apply infix_bracket
  exact List.mem_map_of_mem inMembers

/-- An object is read back if its values are. -/
theorem readsBack_object (nesting : Nat) (layout : Layout) (depth : Nat)
    {members : List (Text × Json)}
    (each : ∀ member ∈ members,
      ReadsBack (readValue nesting) '}' member.2 (write layout (depth + 1) member.2)) :
    ReadsBack (readValue (nesting + 1)) '}' (.object members)
      (write layout depth (.object members)) := by
  have readMembers : List.Forall₂ (ReadsBack (readMember (readValue nesting)) '}') members
      (writeMembers layout (depth + 1) members) := by
    rw [writeMembers_eq_map]
    apply List.forall₂_map_right_iff.mpr
    apply List.forall₂_same.mpr
    intro member inMembers
    exact readsBack_member (each member inMembers) layout member.1
  rcases readCollection_bracket rfl (by decide) layout depth '{' readMembers with
    ⟨inside, writtenEq, reads⟩
  rw [write, writtenEq]
  constructor
  · intro rest
    rw [List.cons_append, readValue, reads, Option.map_some]
  · exact ⟨'{', inside, rfl, rfl, by decide⟩

/-- A form that is read back is the whole text of its value. -/
theorem ReadsBack.read?_eq {value : Json} {written : Text}
    (readsBack : ReadsBack (readValue depthLimit) '}' value written) :
    read? written = some value := by
  have skipped := readsBack.skipBlanks_append []
  have reads := readsBack.reads []
  rw [List.append_nil] at skipped reads
  rw [read?, skipped, reads]
  rfl

end RunLine.Json
