import RunLine.Path
import RunLine.Proofs.Text.Cutting

/-!
# Names and pieces

A path is read piece by piece between its slashes.  A piece after the last slash is one more
component, or none, and it ends where the path does.  Whatever stands before it keeps the components
that it has by itself.
-/

namespace RunLine

namespace Path

variable {front name : Bytes}

/-- Bytes that a piece between slashes may have as a name. -/
structure IsName (name : Bytes) : Prop where
  whole : slash ∉ name
  proper : Component.ofPiece? name = some (.name name)

theorem IsName.ne_nil (isName : IsName name) : name ≠ [] := by
  rintro rfl
  exact absurd isName.proper (by decide)

theorem IsName.ne_dot (isName : IsName name) : name ≠ [dot] := by
  rintro rfl
  exact absurd isName.proper (by decide)

theorem IsName.getLast?_ne (isName : IsName name) (front : Bytes) :
    (front ++ name).getLast? ≠ some slash := by
  rw [List.getLast?_append_of_ne_nil _ isName.ne_nil]
  exact fun last => isName.whole (List.mem_of_getLast? last)

theorem not_isAbsolute_of_whole {piece : Bytes} (whole : slash ∉ piece) :
    isAbsolute ⟨piece⟩ = false := by
  rw [isAbsolute, beq_eq_false_iff_ne]
  exact fun first => whole (List.mem_of_head? first)

theorem IsName.not_isAbsolute (isName : IsName name) : isAbsolute ⟨name⟩ = false :=
  not_isAbsolute_of_whole isName.whole

/-! ## Where pieces end -/

theorem withStops_concat {pieces : List Bytes} (nonempty : pieces ≠ []) (start : Nat)
    (name : Bytes) :
    withStops start (pieces ++ [name]) = withStops start pieces ++
      [(name, start + ([slash].intercalate pieces).length + 1 + name.length)] := by
  induction pieces generalizing start with
  | nil => exact absurd rfl nonempty
  | cons piece pieces ih =>
      cases pieces with
      | nil => simp [withStops]
      | cons second pieces =>
          have stop : start + ([slash].intercalate (piece :: second :: pieces)).length =
              start + piece.length + 1 + ([slash].intercalate (second :: pieces)).length := by
            rw [List.intercalate_cons_cons, List.length_append, List.length_append,
              List.length_singleton]
            omega
          have parted : withStops start (piece :: second :: pieces) =
              (piece, start + piece.length) ::
                withStops (start + piece.length + 1) (second :: pieces) := rfl
          rw [parted, stop, List.cons_append, withStops, ih (List.cons_ne_nil _ _),
            List.cons_append]

/-- A component with the offset at which it ends, unless a piece is none. -/
def locatedPiece (piece : Bytes) (stop : Nat) : List (Component × Nat) :=
  ((Component.ofPiece? piece).map (·, stop)).toList

theorem filterMap_singleton_piece (piece : Bytes) (stop : Nat) :
    [(piece, stop)].filterMap (fun piece => (Component.ofPiece? piece.1).map (·, piece.2)) =
      locatedPiece piece stop := by
  rw [locatedPiece, List.filterMap_cons]
  cases Component.ofPiece? piece <;> rfl

/-- A piece of its own is a leading `.`, another component or none. -/
theorem located_whole {piece : Bytes} (whole : slash ∉ piece) :
    located ⟨piece⟩ =
      if piece = [dot] then [(.here, 1)] else locatedPiece piece piece.length := by
  rw [located, List.splitOn_eq_singleton whole, not_isAbsolute_of_whole whole,
    if_neg Bool.false_ne_true]
  by_cases isDot : piece = [dot]
  · subst isDot
    rfl
  · have start : [piece].head? ≠ some [dot] := by simpa using isDot
    have stops : withStops 0 [piece] = [(piece, piece.length)] := by simp [withStops]
    rw [if_neg start, if_neg isDot, stops, filterMap_singleton_piece]

/-- A piece after the first slash comes after the root. -/
theorem located_root {piece : Bytes} (whole : slash ∉ piece) :
    located ⟨slash :: piece⟩ = (.root, 1) :: locatedPiece piece (1 + piece.length) := by
  have absolute : isAbsolute ⟨slash :: piece⟩ = true := rfl
  have cut : (slash :: piece).splitOn slash = [[], piece] := by
    rw [← List.nil_append (slash :: piece), List.splitOn_append_cons_self,
      List.splitOn_eq_singleton whole]
    rfl
  have stops : withStops 0 [[], piece] = [([], 0), (piece, 1 + piece.length)] := by
    simp [withStops]
  have empty : Component.ofPiece? [] = none := rfl
  rw [located, absolute, if_pos rfl, cut, stops, List.filterMap_cons_none (by rw [empty]; rfl),
    filterMap_singleton_piece]

/-- A piece after a later slash is one more component or none. -/
theorem located_under {piece : Bytes} (whole : slash ∉ piece) (nonempty : front ≠ []) :
    located ⟨front ++ slash :: piece⟩ =
      located ⟨front⟩ ++ locatedPiece piece (front.length + 1 + piece.length) := by
  have cut : (front ++ slash :: piece).splitOn slash = front.splitOn slash ++ [piece] := by
    rw [List.splitOn_append_cons_self, List.splitOn_eq_singleton whole]
  have pieces := List.splitOn_ne_nil slash front
  have absolute : isAbsolute ⟨front ++ slash :: piece⟩ = isAbsolute ⟨front⟩ := by
    rw [isAbsolute, isAbsolute, List.head?_append_of_ne_nil _ nonempty]
  have ordinary : (withStops 0 ((front ++ slash :: piece).splitOn slash)).filterMap
        (fun piece => (Component.ofPiece? piece.1).map (·, piece.2)) =
      (withStops 0 (front.splitOn slash)).filterMap
          (fun piece => (Component.ofPiece? piece.1).map (·, piece.2)) ++
        locatedPiece piece (front.length + 1 + piece.length) := by
    rw [cut, withStops_concat pieces, List.filterMap_append, List.intercalate_splitOn, Nat.zero_add,
      filterMap_singleton_piece]
  rw [located, located, absolute, ordinary, cut, List.head?_append_of_ne_nil _ pieces]
  split
  · rfl
  · split
    · rfl
    · rfl

end Path

end RunLine
