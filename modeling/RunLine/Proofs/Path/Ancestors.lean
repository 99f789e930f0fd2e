import RunLine.Proofs.Path.Pieces

/-!
# The way up from a path

A path without its last component is a beginning of the path, and the other components are those of
the path.  So the way up ends, it passes a path for each beginning of the components but the root's
own, the longest first, and it does not depend on how far one is prepared to go.
-/

namespace RunLine.Path

variable {path parent above : Path} {front piece : Bytes} {component : Component} {stop bound : Nat}

/-! ## Beginnings of a path -/

/-- A path is a piece, or a path with one more piece after a slash. -/
theorem pieces_induction {holds : Path → Prop} (whole : ∀ piece, slash ∉ piece → holds ⟨piece⟩)
    (under : ∀ front piece, slash ∉ piece → holds ⟨front⟩ → holds ⟨front ++ slash :: piece⟩)
    (path : Path) : holds path := by
  have joined : ∀ pieces : List Bytes, pieces ≠ [] → (∀ piece ∈ pieces, slash ∉ piece) →
      holds ⟨[slash].intercalate pieces⟩ := by
    intro pieces
    induction pieces using List.reverseRecOn with
    | nil => exact fun nonempty => absurd rfl nonempty
    | append_singleton earlier last ih =>
        intro _ clean
        have lastClean := clean last (by simp)
        by_cases alone : earlier = []
        · subst alone
          rw [List.nil_append, List.intercalate_singleton]
          exact whole last lastClean
        · rw [Text.intercalate_append _ alone (List.cons_ne_nil last []),
            List.intercalate_singleton, List.append_assoc, List.singleton_append]
          exact under _ last lastClean
            (ih alone fun piece member => clean piece (List.mem_append_left _ member))
  have pieces := joined (path.bytes.splitOn slash) (List.splitOn_ne_nil slash path.bytes)
    fun _ => Text.separator_not_mem_of_mem_splitOn
  rwa [List.intercalate_splitOn] at pieces

theorem Component.of_ofPiece? (shown : Component.ofPiece? piece = some component) :
    component ≠ .root ∧ piece ≠ [] := by
  rw [ofPiece?] at shown
  split at shown
  · cases shown
  · rename_i something
    refine ⟨?_, fun nothing => something (Or.inl nothing)⟩
    rintro rfl
    split at shown
    · cases shown
    · cases shown

/-- A piece shows at most one component, no root, and only if there is something in it. -/
theorem locatedPiece_eq (piece : Bytes) (stop : Nat) :
    locatedPiece piece stop = [] ∨
      ∃ component, component ≠ .root ∧ piece ≠ [] ∧
        locatedPiece piece stop = [(component, stop)] := by
  rw [locatedPiece]
  cases shown : Component.ofPiece? piece with
  | none => exact Or.inl rfl
  | some component =>
      obtain ⟨notRoot, something⟩ := Component.of_ofPiece? shown
      exact Or.inr ⟨component, notRoot, something, rfl⟩

/-- A component is found before a last piece or shown by it. -/
theorem cut_locatedPiece {earlier front back : List (Component × Nat)} {entry : Component × Nat}
    (cut : earlier ++ locatedPiece piece stop = front ++ entry :: back) :
    (∃ between, earlier = front ++ entry :: between) ∨
      earlier ++ locatedPiece piece stop = front ++ [entry] ∧ entry.2 = stop := by
  rcases locatedPiece_eq piece stop with nothing | ⟨component, -, -, shown⟩
  · rw [nothing, List.append_nil] at cut
    exact Or.inl ⟨back, cut⟩
  · rw [shown] at cut ⊢
    rcases List.eq_nil_or_concat' back with rfl | ⟨between, last, rfl⟩
    · have same : [(component, stop)] = [entry] := (List.append_inj' cut rfl).2
      rw [← List.singleton_inj.mp same]
      exact Or.inr ⟨by rw [cut, same], rfl⟩
    · rw [← List.cons_append, ← List.append_assoc] at cut
      exact Or.inl ⟨between, (List.append_inj' cut rfl).1⟩

theorem located_take_whole {bytes : Bytes} {entries : List (Component × Nat)}
    (shown : located ⟨bytes⟩ = entries) (ends : stop = bytes.length) :
    stop ≤ bytes.length ∧ located ⟨bytes.take stop⟩ = entries :=
  ⟨ends.le, by rw [List.take_of_length_le ends.ge, shown]⟩

/-- Up to the end of a component a path has the components up to that one. -/
theorem located_take {front back : List (Component × Nat)}
    (cut : path.located = front ++ (component, stop) :: back) :
    stop ≤ path.bytes.length ∧ located ⟨path.bytes.take stop⟩ = front ++ [(component, stop)] := by
  induction path using pieces_induction generalizing front component stop back with
  | whole piece clean =>
      by_cases isDot : piece = [dot]
      · subst isDot
        cases front with
        | nil =>
            cases cut
            exact located_take_whole rfl rfl
        | cons first front => simp [located_whole clean] at cut
      · have shown := located_whole clean
        rw [if_neg isDot, ← List.nil_append (locatedPiece _ _)] at shown
        rw [shown] at cut
        rcases cut_locatedPiece cut with ⟨between, before⟩ | ⟨same, ends⟩
        · simp at before
        · exact located_take_whole (shown.trans same) ends
  | under outer piece clean ih =>
      have length : outer.length + 1 + piece.length = (outer ++ slash :: piece).length := by
        rw [List.length_append, List.length_cons]
        omega
      by_cases nothing : outer = []
      · subst nothing
        have shown : located ⟨[] ++ slash :: piece⟩ =
            [(.root, 1)] ++ locatedPiece piece (1 + piece.length) := located_root clean
        rw [shown] at cut
        rcases cut_locatedPiece cut with ⟨between, before⟩ | ⟨same, ends⟩
        · cases front with
          | nil =>
              cases before
              exact ⟨by simp, rfl⟩
          | cons first front => simp at before
        · exact located_take_whole (shown.trans same) (ends.trans (by rw [← length]; simp))
      · have shown := located_under clean nothing
        rw [shown] at cut
        rcases cut_locatedPiece cut with ⟨between, before⟩ | ⟨same, ends⟩
        · obtain ⟨inside, earlier⟩ := ih before
          have fits : stop ≤ outer.length := inside
          exact ⟨by rw [← length]; omega, by rw [List.take_append_of_le_length fits, earlier]⟩
        · exact located_take_whole (shown.trans same) (ends.trans length)

/-! ## Parents -/

/-- A path has a parent if it has a last component that is no root, and the parent has the other
components. -/
theorem parent?_cases (path : Path) :
    (path.parent? = none ∧
      (path.located = [] ∨ ∃ front stop, path.located = front ++ [(.root, stop)])) ∨
      ∃ parent front component stop, path.parent? = some parent ∧ component ≠ .root ∧
        path.located = front ++ [(component, stop)] ∧ parent.located = front := by
  rcases List.eq_nil_or_concat' path.located with nothing | ⟨front, ⟨component, stop⟩, shown⟩
  · exact Or.inl ⟨by rw [parent?, nothing]; rfl, Or.inl nothing⟩
  · by_cases isRoot : component = .root
    · subst isRoot
      exact Or.inl ⟨by rw [parent?, shown, List.reverse_append]; rfl, Or.inr ⟨front, stop, shown⟩⟩
    · right
      have reversed : path.located.reverse = (component, stop) :: front.reverse := by
        rw [shown, List.reverse_append]
        rfl
      rcases List.eq_nil_or_concat' front with rfl | ⟨outer, ⟨last, earlier⟩, rfl⟩
      · refine ⟨⟨[]⟩, [], component, stop, ?_, isRoot, shown, rfl⟩
        rw [parent?, reversed]
        cases component with
        | root => exact absurd rfl isRoot
        | here | up | name bytes => rfl
      · refine ⟨⟨path.bytes.take earlier⟩, _, component, stop, ?_, isRoot, shown, ?_⟩
        · rw [parent?, reversed, List.reverse_append]
          cases component with
          | root => exact absurd rfl isRoot
          | here | up | name bytes => rfl
        · rw [List.append_assoc] at shown
          exact (located_take shown).2

theorem length_locatedPiece_le (piece : Bytes) (stop : Nat) :
    (locatedPiece piece stop).length ≤ piece.length := by
  rcases locatedPiece_eq piece stop with nothing | ⟨component, -, something, shown⟩
  · rw [nothing]
    exact Nat.zero_le _
  · rw [shown]
    exact List.length_pos_iff.mpr something

theorem length_located_le (path : Path) : path.located.length ≤ path.bytes.length := by
  induction path using pieces_induction with
  | whole piece clean =>
      rw [located_whole clean]
      split
      · rename_i isDot
        rw [isDot]
        exact Nat.le_refl 1
      · exact length_locatedPiece_le piece piece.length
  | under outer piece clean ih =>
      have length : (outer ++ slash :: piece).length = outer.length + 1 + piece.length := by
        rw [List.length_append, List.length_cons]
        omega
      by_cases nothing : outer = []
      · subst nothing
        have shorter := length_locatedPiece_le piece (1 + piece.length)
        rw [List.nil_append, located_root clean, List.length_cons, List.length_cons]
        omega
      · have shorter := length_locatedPiece_le piece (outer.length + 1 + piece.length)
        have earlier : (located ⟨outer⟩).length ≤ outer.length := ih
        rw [located_under clean nothing, List.length_append, length]
        omega

/-- How many components can be left out. -/
def depth (path : Path) : Nat := path.components.countP (· ≠ .root)

theorem depth_le (path : Path) : path.depth ≤ path.bytes.length := by
  have counted : path.depth ≤ path.located.length := by
    rw [depth, components]
    exact List.countP_le_length.trans (List.length_map _).le
  exact counted.trans path.length_located_le

/-- Only the first component can be the root. -/
theorem components_eq (path : Path) :
    ∃ rest, .root ∉ rest ∧ path.components = (if path.isAbsolute then [.root] else []) ++ rest := by
  have ordinary : .root ∉ ((withStops 0 (path.bytes.splitOn slash)).filterMap fun piece =>
      (Component.ofPiece? piece.1).map (·, piece.2)).map (·.1) := by
    simp only [List.mem_map, List.mem_filterMap, Option.map_eq_some_iff]
    rintro ⟨_, ⟨piece, -, component, shown, rfl⟩, isRoot⟩
    exact (Component.of_ofPiece? shown).1 isRoot
  rw [components, located]
  split
  · exact ⟨_, ordinary, rfl⟩
  · split
    · exact ⟨.here :: _, List.not_mem_cons_of_ne_of_not_mem (by decide) ordinary, rfl⟩
    · exact ⟨_, ordinary, rfl⟩

/-- Leaving out components ends at the root, or where there are none. -/
theorem depth_eq_zero_of_root {front : List Component}
    (shown : path.components = front ++ [.root]) : path.depth = 0 := by
  obtain ⟨rest, noRoot, parted⟩ := path.components_eq
  have nothing : rest = [] := by
    rcases List.eq_nil_or_concat' rest with nothing | ⟨before, last, rfl⟩
    · exact nothing
    · rw [parted, ← List.append_assoc] at shown
      have isRoot : [last] = [.root] := (List.append_inj' shown rfl).2
      rw [List.singleton_inj.mp isRoot] at noRoot
      exact absurd (List.mem_append_right before List.mem_cons_self) noRoot
  rw [depth, parted, nothing]
  split <;> rfl

/-- There is a parent as long as a component can be left out, and then it has the others. -/
theorem depth_cases (path : Path) :
    (path.parent? = none ∧ path.depth = 0) ∨
      ∃ parent component, path.parent? = some parent ∧
        path.components = parent.components ++ [component] ∧ path.depth = parent.depth + 1 := by
  rcases path.parent?_cases with ⟨noParent, nothing | ⟨front, stop, shown⟩⟩ |
    ⟨parent, front, component, stop, isParent, notRoot, shown, isFront⟩
  · exact Or.inl ⟨noParent, by rw [depth, components, nothing]; rfl⟩
  · have atRoot : path.components = front.map (·.1) ++ [.root] := by
      rw [components, shown, List.map_append]
      rfl
    exact Or.inl ⟨noParent, depth_eq_zero_of_root atRoot⟩
  · have longer : path.components = parent.components ++ [component] := by
      rw [components, components, shown, isFront, List.map_append]
      rfl
    refine Or.inr ⟨parent, component, isParent, longer, ?_⟩
    rw [depth, depth, longer, List.countP_append]
    simp [notRoot]

/-! ## The way up -/

theorem ancestorsWithin_top (noParent : path.parent? = none) (bound : Nat) :
    ancestorsWithin bound path = [path] := by
  cases bound with
  | zero => rfl
  | succ bound => rw [ancestorsWithin, noParent]

theorem ancestorsWithin_succ (isParent : path.parent? = some parent) (bound : Nat) :
    ancestorsWithin (bound + 1) path = path :: ancestorsWithin bound parent := by
  rw [ancestorsWithin, isParent]

/-- More steps than there are components to leave out make no difference. -/
theorem ancestorsWithin_eq {other : Nat} (enough : path.depth ≤ bound)
    (alsoEnough : path.depth ≤ other) :
    ancestorsWithin bound path = ancestorsWithin other path := by
  induction bound generalizing path other with
  | zero =>
      rcases path.depth_cases with ⟨noParent, -⟩ | ⟨parent, component, -, -, deeper⟩
      · rw [ancestorsWithin_top noParent, ancestorsWithin_top noParent]
      · omega
  | succ bound ih =>
      rcases path.depth_cases with ⟨noParent, -⟩ | ⟨parent, component, isParent, -, deeper⟩
      · rw [ancestorsWithin_top noParent, ancestorsWithin_top noParent]
      · cases other with
        | zero => omega
        | succ other =>
            have onward : ancestorsWithin bound parent = ancestorsWithin other parent :=
              ih (by omega) (by omega)
            rw [ancestorsWithin_succ isParent, ancestorsWithin_succ isParent, onward]

theorem ancestors_eq (path : Path) :
    path.ancestors = path :: path.parent?.elim [] ancestors := by
  rcases path.depth_cases with ⟨noParent, -⟩ | ⟨parent, component, isParent, -, deeper⟩
  · rw [ancestors, ancestorsWithin_top noParent, noParent]
    rfl
  · have bounded := path.depth_le
    have positive : path.bytes.length = path.bytes.length - 1 + 1 := by omega
    rw [ancestors, positive, ancestorsWithin_succ isParent, isParent, Option.elim_some, ancestors,
      ancestorsWithin_eq (by omega) parent.depth_le]

/-- What is reached after so many steps up. -/
def ancestor? : Nat → Path → Option Path
  | 0, path => some path
  | steps + 1, path => path.parent?.bind (ancestor? steps)

/-- The way up goes from parent to parent and does not end before there is none. -/
theorem getElem?_ancestors (path : Path) (steps : Nat) :
    path.ancestors[steps]? = ancestor? steps path := by
  induction steps generalizing path with
  | zero => rw [ancestors_eq]; rfl
  | succ steps ih =>
      rw [ancestors_eq, List.getElem?_cons_succ, ancestor?]
      cases path.parent? with
      | none => rfl
      | some parent => exact ih parent

/-- After so many steps up as many components are left out, and no more steps can be taken than
there are components to leave out. -/
theorem map_components_ancestor? (path : Path) (steps : Nat) :
    (ancestor? steps path).map components =
      if steps ≤ path.depth then some (path.components.take (path.components.length - steps))
      else none := by
  induction steps generalizing path with
  | zero => simp [ancestor?]
  | succ steps ih =>
      rw [ancestor?]
      rcases path.depth_cases with ⟨noParent, top⟩ | ⟨parent, component, isParent, longer, deeper⟩
      · rw [noParent, top]
        simp
      · have shorter : parent.components.length + 1 - (steps + 1) ≤ parent.components.length := by
          omega
        rw [isParent, Option.bind_some, ih, deeper, longer, List.length_append,
          List.length_singleton, List.take_append_of_le_length shorter, Nat.add_sub_add_right]
        simp only [Nat.add_le_add_iff_right]

end RunLine.Path
