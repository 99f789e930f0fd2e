import RunLine.Proofs.Path.Ancestors

/-!
# How a path ends

The last component of a path is read off its bytes from behind: a slash at the end says nothing, nor
does a dot after a slash.  A name that is put under a path is one more component, so a path that
ends with a name has the components of its parent with that name under it.
-/

namespace RunLine.Path

/-- Bytes end with a component: it stands at the end, or only what says nothing stands behind it. -/
inductive EndsWith : Bytes → Component → Prop where
  | root : EndsWith [slash] .root
  | here : EndsWith [dot] .here
  | up {front : Bytes} (opened : front = [] ∨ front.getLast? = some slash) :
      EndsWith (front ++ [dot, dot]) .up
  | name {front name : Bytes} (opened : front = [] ∨ front.getLast? = some slash)
      (whole : slash ∉ name) (ordinary : name ≠ [] ∧ name ≠ [dot] ∧ name ≠ [dot, dot]) :
      EndsWith (front ++ name) (.name name)
  /-- A slash at the end says nothing. -/
  | slash {bytes : Bytes} {component : Component} (ends : EndsWith bytes component) :
      EndsWith (bytes ++ [slash]) component
  /-- A dot after a slash says nothing. -/
  | dot {bytes : Bytes} {component : Component}
      (ends : EndsWith (bytes ++ [Path.slash]) component) :
      EndsWith (bytes ++ [Path.slash, dot]) component

variable {path : Path} {bytes front piece name : Bytes} {component : Component}

/-! ## Components, piece by piece -/

theorem map_locatedPiece (piece : Bytes) (stop : Nat) :
    (locatedPiece piece stop).map (·.1) = (Component.ofPiece? piece).toList := by
  rw [locatedPiece]
  cases Component.ofPiece? piece <;> rfl

/-- A piece of its own is a leading `.`, another component or none. -/
theorem components_whole (whole : slash ∉ piece) :
    components ⟨piece⟩ =
      if piece = [dot] then [.here] else (Component.ofPiece? piece).toList := by
  rw [components, located_whole whole]
  split
  · rfl
  · exact map_locatedPiece _ _

/-- A slash at the end says nothing, unless there is nothing before it. -/
theorem components_slash (front : Bytes) :
    components ⟨front ++ [slash]⟩ = if front = [] then [.root] else components ⟨front⟩ := by
  split
  · rename_i nothing
    subst nothing
    rfl
  · rename_i something
    have whole : slash ∉ ([] : Bytes) := List.not_mem_nil
    rw [components, located_under whole something, List.map_append, map_locatedPiece]
    exact List.append_nil _

/-- A piece after a slash is one more component or none. -/
theorem components_piece (whole : slash ∉ piece) (front : Bytes) :
    components ⟨front ++ slash :: piece⟩ =
      components ⟨front ++ [slash]⟩ ++ (Component.ofPiece? piece).toList := by
  rw [components_slash]
  split
  · rename_i nothing
    subst nothing
    rw [List.nil_append, components, located_root whole, List.map_cons, map_locatedPiece]
    rfl
  · rename_i something
    rw [components, located_under whole something, List.map_append, map_locatedPiece]
    rfl

/-! ## The last component -/

theorem Component.ofPiece?_eq_none_iff :
    Component.ofPiece? piece = none ↔ piece = [] ∨ piece = [dot] := by
  rw [ofPiece?]
  split
  · rename_i idle
    exact iff_of_true rfl idle
  · rename_i something
    refine iff_of_false ?_ something
    split
    · exact Option.some_ne_none _
    · exact Option.some_ne_none _

theorem isName_iff :
    IsName name ↔ slash ∉ name ∧ name ≠ [] ∧ name ≠ [dot] ∧ name ≠ [dot, dot] := by
  constructor
  · intro isName
    refine ⟨isName.whole, isName.ne_nil, isName.ne_dot, ?_⟩
    rintro rfl
    exact absurd isName.proper (by decide)
  · rintro ⟨whole, something, notHere, notUp⟩
    exact ⟨whole, by rw [Component.ofPiece?, if_neg (not_or_intro something notHere), if_neg notUp]⟩

/-- Behind nothing or a slash a piece that shows a component is the last of the components. -/
theorem getLast?_components_append (opened : front = [] ∨ front.getLast? = some slash)
    (whole : slash ∉ piece) (shown : Component.ofPiece? piece = some component) :
    (components ⟨front ++ piece⟩).getLast? = some component := by
  rcases opened with rfl | closed
  · have notDot : piece ≠ [dot] := by
      rintro rfl
      cases shown
    rw [List.nil_append, components_whole whole, if_neg notDot, shown]
    rfl
  · obtain ⟨outer, rfl⟩ := List.getLast?_eq_some_iff.mp closed
    rw [List.append_assoc, List.singleton_append, components_piece whole, shown]
    exact List.getLast?_concat

namespace EndsWith

/-- A piece that shows a component is the last one where it stands at the end. -/
theorem of_ofPiece? (opened : front = [] ∨ front.getLast? = some Path.slash)
    (whole : Path.slash ∉ piece) (shown : Component.ofPiece? piece = some component) :
    EndsWith (front ++ piece) component := by
  rw [Component.ofPiece?] at shown
  split at shown
  · cases shown
  · rename_i something
    split at shown
    · rename_i isUp
      cases shown
      rw [isUp]
      exact .up opened
    · rename_i notUp
      cases shown
      exact .name opened whole ⟨fun nothing => something (.inl nothing),
        fun isDot => something (.inr isDot), notUp⟩

/-- A piece that shows none says nothing after a slash. -/
theorem of_idle (ends : EndsWith (front ++ [Path.slash]) component)
    (idle : Component.ofPiece? piece = none) :
    EndsWith (front ++ Path.slash :: piece) component := by
  rcases Component.ofPiece?_eq_none_iff.mp idle with rfl | rfl
  · exact ends
  · exact .dot ends

theorem ne_nil (ends : EndsWith bytes component) : bytes ≠ [] := by
  cases ends with
  | name opened whole ordinary => exact List.append_ne_nil_of_right_ne_nil _ ordinary.1
  | root | here | up | slash | dot => simp

/-- Bytes end with the last of the components. -/
theorem of_getLast? (last : path.components.getLast? = some component) :
    EndsWith path.bytes component := by
  induction path using pieces_induction generalizing component with
  | whole piece clean =>
      rw [components_whole clean] at last
      split at last
      · rename_i isDot
        cases last
        rw [isDot]
        exact .here
      · cases shown : Component.ofPiece? piece with
        | none =>
            rw [shown] at last
            cases last
        | some found =>
            rw [shown] at last
            cases last
            have ends : EndsWith ([] ++ piece) found := of_ofPiece? (.inl rfl) clean shown
            exact ends
  | under outer piece clean ih =>
      rw [components_piece clean] at last
      cases shown : Component.ofPiece? piece with
      | none =>
          rw [shown, Option.toList_none, List.append_nil, components_slash] at last
          refine of_idle ?_ shown
          split at last
          · rename_i nothing
            cases last
            rw [nothing]
            exact .root
          · exact .slash (ih last)
      | some found =>
          rw [shown, Option.toList_some, List.getLast?_concat] at last
          cases last
          have ends : EndsWith ((outer ++ [Path.slash]) ++ piece) component :=
            of_ofPiece? (.inr List.getLast?_concat) clean shown
          rwa [List.append_assoc, List.singleton_append] at ends

/-- The component with which bytes end is the last of the components. -/
theorem getLast?_components (ends : EndsWith bytes component) :
    (components ⟨bytes⟩).getLast? = some component := by
  induction ends with
  | root => rfl
  | here => rfl
  | up opened => exact getLast?_components_append opened (by decide) rfl
  | name opened whole ordinary =>
      exact getLast?_components_append opened whole (isName_iff.mpr ⟨whole, ordinary⟩).proper
  | slash ends ih => rw [components_slash, if_neg ends.ne_nil, ih]
  | dot ends ih =>
      rw [components_piece (by decide), ← ih]
      exact congrArg _ (List.append_nil _)

end EndsWith

theorem getLast?_components_iff :
    path.components.getLast? = some component ↔ EndsWith path.bytes component :=
  ⟨EndsWith.of_getLast?, EndsWith.getLast?_components⟩

/-- Bytes end with one component. -/
theorem EndsWith.unique {other : Component} (ends : EndsWith bytes component)
    (otherEnds : EndsWith bytes other) : component = other := by
  have same := ends.getLast?_components.symm.trans otherEnds.getLast?_components
  exact Option.some_inj.mp same

theorem components_eq_nil_iff : path.components = [] ↔ path.bytes = [] := by
  constructor
  · intro nothing
    induction path using pieces_induction with
    | whole piece clean =>
        rw [components_whole clean] at nothing
        split at nothing
        · cases nothing
        · rename_i notDot
          rw [Option.toList_eq_nil_iff, Component.ofPiece?_eq_none_iff] at nothing
          exact nothing.resolve_right notDot
    | under outer piece clean ih =>
        rw [components_piece clean, List.append_eq_nil_iff, components_slash] at nothing
        split at nothing
        · cases nothing.1
        · rename_i something
          exact absurd (ih nothing.1) something
  · intro nothing
    have isEmpty : path = ⟨[]⟩ := congrArg Path.mk nothing
    rw [isEmpty]
    rfl

/-- A name with which bytes end is an ordinary one. -/
theorem EndsWith.isName (ends : EndsWith bytes (.name name)) : IsName name := by
  generalize shown : Component.name name = component at ends
  induction ends with
  | root | here | up => cases shown
  | name opened whole ordinary =>
      cases shown
      exact isName_iff.mpr ⟨whole, ordinary⟩
  | slash ends ih | dot ends ih => exact ih shown

theorem fileName?_eq_some_iff : path.fileName? = some name ↔ EndsWith path.bytes (.name name) := by
  rw [← getLast?_components_iff, fileName?]
  constructor
  · intro found
    split at found
    · rename_i last
      cases found
      exact last
    · cases found
  · intro last
    rw [last]

/-! ## Names under paths -/

/-- A name that is put under a path is one more component. -/
theorem components_join (isName : IsName name) (base : Path) :
    (base.join ⟨name⟩).components = base.components ++ [.name name] := by
  have under : ∀ front, components ⟨front ++ slash :: name⟩ =
      components ⟨front ++ [slash]⟩ ++ [.name name] := by
    intro front
    rw [components_piece isName.whole, isName.proper]
    rfl
  rw [join, isName.not_isAbsolute, if_neg Bool.false_ne_true]
  split
  · rename_i closed
    rw [Bool.or_eq_true, List.isEmpty_iff, beq_iff_eq, List.getLast?_eq_some_iff] at closed
    rcases closed with nothing | ⟨front, ends⟩
    · rw [components_eq_nil_iff.mpr nothing, nothing, List.nil_append, List.nil_append,
        components_whole isName.whole, if_neg isName.ne_dot, isName.proper]
      rfl
    · have closed : base = ⟨front ++ [slash]⟩ := congrArg Path.mk ends
      rw [closed, List.append_assoc, List.singleton_append, under]
  · rename_i unclosed
    have something : base.bytes ≠ [] := by
      intro nothing
      rw [nothing] at unclosed
      exact unclosed rfl
    rw [under, components_slash, if_neg something]

/-- A path that ends with a name has the components of its parent and the name. -/
theorem exists_parent? (ends : EndsWith path.bytes (.name name)) :
    ∃ parent, path.parent? = some parent ∧
      path.components = parent.components ++ [.name name] := by
  rw [← getLast?_components_iff] at ends
  rcases path.depth_cases with ⟨-, top⟩ | ⟨parent, component, isParent, longer, -⟩
  · rw [depth, List.countP_eq_zero] at top
    exact absurd (top _ (List.mem_of_getLast? ends)) (by simp)
  · rw [longer, List.getLast?_concat, Option.some_inj] at ends
    exact ⟨parent, isParent, by rw [longer, ends]⟩

end RunLine.Path
