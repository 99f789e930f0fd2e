import RunLine.Host
import RunLine.Proofs.Files.Additions
import RunLine.Proofs.Path.Pieces

/-!
# Places and their paths

In a tree where everything lies in a directory a walk from a directory comes to something that is
there, or to a directory that lacks a name.  So what is made along a path does not leave a gap.  If
moreover paths can spell the names that lead to a place, and the user may look for names all along,
the absolute path of the place leads to it, provided that it is not too long: it then leads to the
same as its last name does from the directory of the place.
-/

namespace RunLine

/-! ## Trees without gaps -/

namespace Files

variable {files : Files} {user : User} {here directory place : Place} {path : Path}
variable {purpose : Purpose} {name : FileName} {node : FileNode} {steps rest : List Path.Step}

/-- Whatever is found in a tree lies in a directory. -/
def Rooted (files : Files) : Prop :=
  ∀ name place, (files.node? (name :: place)).isSome = true → files.isDirectory place = true

theorem isSome_of_isDirectory (isDirectory : files.isDirectory place = true) :
    (files.node? place).isSome = true := by
  obtain ⟨permissions, found⟩ := isDirectory_eq_true_iff.mp isDirectory
  rw [found]
  rfl

theorem isSome_root (files : Files) : (files.node? []).isSome = true := rfl

theorem Rooted.tail (rooted : files.Rooted) (found : (files.node? place).isSome = true) :
    (files.node? place.tail).isSome = true := by
  cases place with
  | nil => exact files.isSome_root
  | cons name place =>
      exact isSome_of_isDirectory (rooted name place found)

/-- A place is a directory, and so is everything above it. -/
def Stands (files : Files) (place : Place) : Prop :=
  ∀ outer, outer <:+ place → files.isDirectory outer = true

theorem Stands.isDirectory (stands : files.Stands place) : files.isDirectory place = true :=
  stands place (List.suffix_refl place)

theorem Stands.tail (stands : files.Stands (name :: place)) : files.Stands place := by
  intro outer above
  exact stands outer (above.trans (List.suffix_cons name place))

theorem Stands.of_grown {after : Files} (grown : Grown files after) (stands : files.Stands place) :
    after.Stands place := by
  intro outer above
  exact grown.isDirectory_kept (stands outer above)

/-- A user may look for names at a place, and wherever above it. -/
def Searchable (files : Files) (user : User) (place : Place) : Prop :=
  ∀ outer, outer <:+ place → files.permits user .execute outer = true

theorem Searchable.tail (searchable : files.Searchable user (name :: place)) :
    files.Searchable user place := by
  intro outer above
  exact searchable outer (above.trans (List.suffix_cons name place))

theorem Stands.admits {step : Path.Step} (stands : files.Stands place)
    (searchable : files.Searchable user place) : files.Admits user place step :=
  ⟨stands.isDirectory, fun _ => searchable place (List.suffix_refl place)⟩

theorem Rooted.stands (rooted : files.Rooted) (isDirectory : files.isDirectory place = true) :
    files.Stands place := by
  induction place with
  | nil =>
      intro outer above
      rw [List.eq_nil_of_suffix_nil above]
      rfl
  | cons name place ih =>
      intro outer above
      cases List.suffix_cons_iff.mp above with
      | inl same =>
          rw [same]
          exact isDirectory
      | inr above =>
          exact ih (rooted name place (isSome_of_isDirectory isDirectory)) outer above

/-- Where a stride ends something is found or a directory lacks the last name, and a link that it
meets lies in a directory. -/
def Founded (files : Files) : Stride → Prop
  | .arrival (.present place) => (files.node? place).isSome = true
  | .arrival (.vacant directory _) => files.isDirectory directory = true
  | .link directory _ _ => files.isDirectory directory = true
  | .failure _ => True

theorem founded_stride (rooted : files.Rooted) (found : (files.node? here).isSome = true)
    (user : User) (steps : List Path.Step) :
    Founded files (files.stride user purpose here steps) := by
  induction steps generalizing here with
  | nil => exact found
  | cons step rest ih =>
      by_cases isRoot : step = .root
      · subst isRoot
        exact ih files.isSome_root
      by_cases admits : files.Admits user here step
      · cases step with
        | root => exact absurd rfl isRoot
        | stay | close =>
            rw [stride_of_admits admits]
            exact ih found
        | up =>
            rw [stride_of_admits admits]
            exact ih (rooted.tail found)
        | name name =>
            by_cases refuses : Refuses purpose here name rest
            · obtain ⟨error, fails⟩ := stride_name_of_refuses admits refuses
              rw [fails]
              trivial
            cases entry : files.node? (name :: here) with
            | none =>
                rw [stride_name_of_vacant admits refuses entry, vacancy]
                split
                · split
                  · trivial
                  · exact admits.isDirectory
                · trivial
            | some node =>
                have present : (files.node? (name :: here)).isSome = true := by rw [entry]; rfl
                by_cases isLink : ∃ target, node = .link target
                · obtain ⟨target, rfl⟩ := isLink
                  rw [stride_name_of_link admits refuses entry]
                  split
                  · exact present
                  · exact admits.isDirectory
                · rw [stride_name_of_other admits refuses entry (not_exists.mp isLink)]
                  exact ih present
      · obtain ⟨error, fails⟩ := stride_of_not_admits isRoot admits rest
        rw [fails]
        trivial

theorem founded_of_walkWithin (rooted : files.Rooted) (found : (files.node? here).isSome = true)
    {links left : Nat} {arrival : Arrival}
    (walked : files.walkWithin user purpose links here steps = .ok (arrival, left)) :
    Founded files (.arrival arrival) := by
  induction links using Nat.strongRecOn generalizing here steps with
  | ind links ih =>
      have founded : Founded files (files.stride user purpose here steps) :=
        founded_stride rooted found user steps
      rcases walkWithin_eq_ok.mp walked with
        ⟨met, rfl⟩ | ⟨directory, target, rest, fewer, rfl, met, onward⟩
      · rw [met] at founded
        exact founded
      · rw [met] at founded
        exact ih fewer fewer.lt_succ_self (isSome_of_isDirectory founded) onward

/-- A walk from a directory comes to something, or to a directory that lacks a name. -/
theorem founded_of_walk (rooted : files.Rooted) (found : (files.node? here).isSome = true)
    {arrival : Arrival} (walked : files.walk user purpose here path = .ok arrival) :
    Founded files (.arrival arrival) := by
  obtain ⟨-, left, within⟩ := walk_eq_ok.mp walked
  exact founded_of_walkWithin rooted found within

/-! ## Making without gaps -/

namespace Rooted

variable {after : Files} (rooted : files.Rooted)
include rooted

theorem put (isDirectory : files.isDirectory directory = true)
    (vacant : files.node? (name :: directory) = none) (node : FileNode) :
    (files.put (name :: directory) node).Rooted := by
  intro inner place found
  have inDirectory : files.isDirectory place = true := by
    by_cases same : inner :: place = name :: directory
    · cases same
      exact isDirectory
    · rw [node?_put_of_ne files same] at found
      exact rooted inner place found
  have different : place ≠ name :: directory := by
    rintro rfl
    simp [Files.isDirectory, vacant] at inDirectory
  rw [Files.isDirectory, node?_put_of_ne files different]
  exact inDirectory

theorem touch (found : (files.node? here).isSome = true)
    (touched : files.touch user here path = .ok after) : after.Rooted := by
  rcases touch_cases touched with rfl | ⟨place, name, walked, rfl⟩
  · exact rooted
  · exact rooted.put (founded_of_walk rooted found walked) (fits_of_walk walked) _

/-- What is written where nothing is found leaves no gap. -/
theorem write {room : Option Nat} {content : Bytes} (found : (files.node? here).isSome = true)
    (missing : files.found? user here path = none) :
    (files.write user room here path content).1.Rooted := by
  rcases write_cases missing with ⟨error, same⟩ | ⟨above, name, walked, written⟩
  · rw [same]
    exact rooted
  · rw [written]
    exact rooted.put (founded_of_walk rooted found walked) (fits_of_walk walked) _

omit rooted in
theorem makeAlong (rooted : files.Rooted) (found : (files.node? here).isSome = true) (user : User)
    (links : Nat) (steps : List Path.Step) :
    (files.makeAlong user links here steps).1.Rooted := by
  induction steps generalizing files links here with
  | nil => exact rooted
  | cons step rest ih =>
      rw [Files.makeAlong]
      split
      · split
        · rename_i isDirectory
          exact ih rooted (isSome_of_isDirectory isDirectory) _
        · exact rooted
      · split
        · rename_i above name met
          have founded : Founded files (files.stride user .entry here [step]) :=
            founded_stride rooted found user [step]
          rw [met] at founded
          split
          · have made := node?_put_self files (List.cons_ne_nil name above) (newDirectory user)
            exact ih (rooted.put founded (fits_of_stride met) _) (by rw [made]; rfl) _
          · exact rooted
        · exact rooted

theorem makeDirectories (found : (files.node? here).isSome = true) (user : User) (path : Path) :
    (files.makeDirectories user here path).1.Rooted := by
  rw [Files.makeDirectories]
  split
  · exact rooted
  · exact rooted.makeAlong found user linkLimit path.steps

end Rooted

/-! ## Absolute paths -/

/-- A name that a path can spell and that is not too long. -/
structure IsEntryName (name : FileName) : Prop where
  isName : Path.IsName name
  noZero : 0 ∉ name
  short : name.length ≤ nameLimit

instance decidableIsEntryName (name : FileName) : Decidable (IsEntryName name) :=
  decidable_of_iff
    ((Path.slash ∉ name ∧ Path.Component.ofPiece? name = some (.name name)) ∧
      0 ∉ name ∧ name.length ≤ nameLimit)
    ⟨fun ⟨⟨whole, proper⟩, noZero, short⟩ => ⟨⟨whole, proper⟩, noZero, short⟩,
      fun isEntryName => ⟨⟨isEntryName.isName.whole, isEntryName.isName.proper⟩,
        isEntryName.noZero, isEntryName.short⟩⟩

theorem IsEntryName.step (isEntryName : IsEntryName name) :
    Path.Step.ofPiece? name = some (.name name) := by
  have isName := isEntryName.isName
  have notUp : name ≠ [Path.dot, Path.dot] := by
    rintro rfl
    exact absurd isName.proper (by decide)
  rw [Path.Step.ofPiece?, if_neg isName.ne_nil, if_neg isName.ne_dot, if_neg notUp]

theorem pathOf_cons (name : FileName) (directory : Place) :
    Host.pathOf (name :: directory) =
      ⟨directory.reverse.flatMap (Path.slash :: ·) ++ Path.slash :: name⟩ := by
  simp [Host.pathOf]

/-- A name under the path of a directory is the path of an entry. -/
theorem join_pathOf (isName : Path.IsName name)
    (spelled : ∀ entry ∈ directory, IsEntryName entry) :
    (Host.pathOf directory).join ⟨name⟩ = Host.pathOf (name :: directory) := by
  cases directory with
  | nil =>
      have atRoot : Host.pathOf [] = ⟨[Path.slash]⟩ := rfl
      rw [Path.join, isName.not_isAbsolute, if_neg Bool.false_ne_true, atRoot, pathOf_cons]
      rfl
  | cons outer above =>
      have isOuter := (spelled outer List.mem_cons_self).isName
      have unclosed : (Host.pathOf (outer :: above)).bytes.getLast? ≠ some Path.slash := by
        rw [pathOf_cons, ← List.singleton_append, ← List.append_assoc]
        exact isOuter.getLast?_ne _
      have something : (Host.pathOf (outer :: above)).bytes.isEmpty = false := by
        rw [pathOf_cons]
        simp
      rw [Path.join, isName.not_isAbsolute, if_neg Bool.false_ne_true, something,
        beq_eq_false_iff_ne.mpr unclosed, Bool.or_false, if_neg Bool.false_ne_true,
        pathOf_cons name]
      rfl

/-- The absolute path of a place asks for the root and then for the names that lead there. -/
theorem steps_pathOf (spelled : ∀ entry ∈ name :: directory, IsEntryName entry) :
    (Host.pathOf (name :: directory)).steps =
      .root :: (directory.reverse ++ [name]).map .name := by
  have members : ∀ entry ∈ directory.reverse ++ [name], IsEntryName entry := by
    intro entry member
    exact spelled entry (by simpa [or_comm] using member)
  have bytes : (Host.pathOf (name :: directory)).bytes =
      [Path.slash].intercalate ([] :: (directory.reverse ++ [name])) := by
    rw [Text.intercalate_cons_eq_flatMap, pathOf_cons]
    simp
  have pieces : (Host.pathOf (name :: directory)).bytes.splitOn Path.slash =
      [] :: (directory.reverse ++ [name]) := by
    rw [bytes]
    refine List.splitOn_intercalate _ ?_ (List.cons_ne_nil _ _)
    intro piece member
    rcases List.mem_cons.mp member with rfl | isEntry
    · exact List.not_mem_nil
    · exact (members piece isEntry).isName.whole
  have absolute : (Host.pathOf (name :: directory)).isAbsolute = true := by
    rw [Path.isAbsolute, bytes, Text.intercalate_cons_eq_flatMap]
    cases directory.reverse <;> rfl
  have open' : (Host.pathOf (name :: directory)).bytes.getLast? ≠ some Path.slash := by
    rw [pathOf_cons, ← List.singleton_append, ← List.append_assoc]
    exact (spelled name List.mem_cons_self).isName.getLast?_ne _
  have named : (directory.reverse ++ [name]).filterMap Path.Step.ofPiece? =
      (directory.reverse ++ [name]).map .name := by
    rw [← List.filterMap_eq_map]
    exact List.filterMap_congr fun entry member => (members entry member).step
  rw [Path.steps, absolute, if_pos rfl, pieces, if_neg open', List.append_nil,
    List.filterMap_cons_none rfl, named, List.singleton_append]

/-- The names that lead to a directory lead a stride there. -/
theorem stride_names (stands : files.Stands place) (searchable : files.Searchable user place)
    (spelled : ∀ entry ∈ place, IsEntryName entry) (rest : List Path.Step) :
    files.stride user .target [] (place.reverse.map .name ++ rest) =
      files.stride user .target place rest := by
  induction place generalizing rest with
  | nil => rfl
  | cons name outer ih =>
      have short := (spelled name List.mem_cons_self).short
      have accepts : ¬ Refuses .target outer name rest := by
        rintro (⟨isFile, -⟩ | ⟨tooLong, -⟩)
        · cases isFile
        · omega
      obtain ⟨permissions, found⟩ := isDirectory_eq_true_iff.mp stands.isDirectory
      rw [List.reverse_cons, List.map_append, List.append_assoc,
        ih stands.tail searchable.tail
          (fun entry member => spelled entry (List.mem_cons_of_mem name member)),
        List.map_singleton, List.singleton_append,
        stride_name_of_other (stands.tail.admits searchable.tail) accepts found nofun]

theorem walkWithin_congr {there : Place} {others : List Path.Step}
    (same : files.stride user purpose here steps = files.stride user purpose there others)
    (links : Nat) :
    files.walkWithin user purpose links here steps =
      files.walkWithin user purpose links there others := by
  unfold walkWithin
  rw [same]

theorem walk_eq (something : path.bytes ≠ []) (noZero : 0 ∉ path.bytes)
    (fits : path.bytes.length ≤ pathLimit) :
    files.walk user purpose here path =
      (files.walkWithin user purpose linkLimit here path.steps).map (·.1) := by
  have usable : (path.bytes.isEmpty || path.bytes.contains 0) = false := by
    simp [something, noZero]
  rw [walk, usable, if_neg Bool.false_ne_true, if_neg (Nat.not_lt.mpr fits)]

theorem steps_name (isEntryName : IsEntryName name) : Path.steps ⟨name⟩ = [.name name] := by
  have isName := isEntryName.isName
  have unclosed : name.getLast? ≠ some Path.slash := by
    simpa using isName.getLast?_ne []
  rw [Path.steps, isName.not_isAbsolute, if_neg Bool.false_ne_true,
    List.splitOn_eq_singleton isName.whole, if_neg unclosed,
    List.filterMap_cons_some isEntryName.step]
  rfl

/-- The absolute path of a name in a directory leads to the same as the name does from there. -/
theorem walk_pathOf (stands : files.Stands directory)
    (searchable : files.Searchable user directory)
    (spelled : ∀ entry ∈ name :: directory, IsEntryName entry)
    (fits : (Host.pathOf (name :: directory)).bytes.length ≤ pathLimit) (here : Place) :
    files.walk user .target here (Host.pathOf (name :: directory)) =
      files.walk user .target directory ⟨name⟩ := by
  have isEntryName := spelled name List.mem_cons_self
  have something : (Host.pathOf (name :: directory)).bytes ≠ [] := by
    rw [pathOf_cons]
    exact List.append_ne_nil_of_right_ne_nil _ (List.cons_ne_nil _ _)
  have noZero : 0 ∉ (Host.pathOf (name :: directory)).bytes := by
    have clean : ∀ entry ∈ directory, 0 ∉ entry := fun entry member =>
      (spelled entry (List.mem_cons_of_mem name member)).noZero
    rw [pathOf_cons]
    simpa [isEntryName.noZero, Path.slash] using clean
  have short : name.length ≤ pathLimit := isEntryName.short.trans (by decide)
  have same : files.stride user .target here (Host.pathOf (name :: directory)).steps =
      files.stride user .target directory (Path.steps ⟨name⟩) := by
    rw [steps_pathOf spelled, stride_root, List.map_append, List.map_singleton,
      stride_names stands searchable fun entry member =>
        spelled entry (List.mem_cons_of_mem name member),
      steps_name isEntryName]
  rw [walk_eq something noZero fits, walk_eq isEntryName.isName.ne_nil isEntryName.noZero short,
    walkWithin_congr same]

end Files

/-! ## Hosts -/

namespace Host

variable {host later : Host}

/-- A host as there can be one: everything lies in a directory, so does the run, and paths can spell
the names that lead there, unless the working directory was removed. -/
structure Sound (host : Host) : Prop where
  rooted : host.files.Rooted
  isDirectory : host.files.isDirectory host.directory = true
  spelled : host.directory.isOrphan = false → ∀ entry ∈ host.directory, Files.IsEntryName entry

/-- The working directory lies in directories up to the root, and a path can spell the names that
lead there, unless it was removed. -/
structure Placed (host : Host) : Prop where
  stands : host.files.Stands host.directory
  spelled : host.directory.isOrphan = false → ∀ entry ∈ host.directory, Files.IsEntryName entry

theorem Sound.placed (sound : host.Sound) : host.Placed :=
  ⟨sound.rooted.stands sound.isDirectory, sound.spelled⟩

theorem Placed.of_grown (placed : host.Placed) (sameDirectory : later.directory = host.directory)
    (grown : Files.Grown host.files later.files) : later.Placed := by
  constructor
  case stands =>
    rw [sameDirectory]
    exact placed.stands.of_grown grown
  case spelled =>
    rw [sameDirectory]
    exact placed.spelled

/-- A sound host stays sound while nothing is removed and no gap comes into being. -/
theorem Sound.of_adds {new : Place → FileNode → Prop} {after : Files} (sound : host.Sound)
    (rooted : after.Rooted) (adds : Files.Adds new host.files after) :
    Sound { host with files := after } :=
  ⟨rooted, adds.grown.isDirectory_kept sound.isDirectory, sound.spelled⟩

theorem Sound.isSome (sound : host.Sound) : (host.files.node? host.directory).isSome = true :=
  Files.isSome_of_isDirectory sound.isDirectory

end Host

end RunLine
