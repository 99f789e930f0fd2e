import RunLine.Files.Change

/-!
# Trees that grow

A tree has grown if everything is still found where it was found before; only the contents of
regular files may have changed.  A walk that found something finds the same in the grown tree, and a
walk that ended at a vacant name finds what was put there.
-/

namespace RunLine

/-- A node without the content of a regular file. -/
def FileNode.shape : FileNode → FileNode
  | file permissions _ => file permissions none
  | node => node

namespace FileNode

variable {node other : FileNode}

theorem isDirectory_shape (node : FileNode) : node.shape.isDirectory = node.isDirectory := by
  cases node <;> rfl

theorem permits_shape (node : FileNode) (user : User) (access : Access) :
    node.shape.permits user access = node.permits user access := by
  cases node <;> rfl

theorem eq_link_of_shape {target : Path} (alike : other.shape = (link target).shape) :
    other = link target := by
  cases other <;> simp_all [shape]

end FileNode

namespace Files

variable {before middle after files : Files} {user : User} {place here : Place} {path : Path}
variable {purpose other : Purpose} {name : FileName} {step : Path.Step} {rest : List Path.Step}

theorem isDirectory_eq_true_iff :
    files.isDirectory place = true ↔
      ∃ permissions, files.node? place = some (.directory permissions) := by
  rw [isDirectory]
  cases files.node? place with
  | none => simp
  | some node => cases node <;> simp [FileNode.isDirectory]

/-- Whatever is found in a tree is found at the same place of another one, up to the contents of
regular files. -/
def Grown (before after : Files) : Prop :=
  ∀ place node, before.node? place = some node →
    ∃ other, after.node? place = some other ∧ other.shape = node.shape

namespace Grown

theorem refl (files : Files) : Grown files files := fun _ node found => ⟨node, found, rfl⟩

theorem trans (early : Grown before middle) (late : Grown middle after) : Grown before after := by
  intro place node found
  rcases early place node found with ⟨kept, foundKept, keptShape⟩
  rcases late place kept foundKept with ⟨last, foundLast, lastShape⟩
  exact ⟨last, foundLast, lastShape.trans keptShape⟩

/-- What holds of a node whatever its content is holds of what is found there later. -/
theorem holds_kept {holds : FileNode → Bool} (grown : Grown before after)
    (blind : ∀ node : FileNode, holds node.shape = holds node)
    (held : (before.node? place).any holds = true) : (after.node? place).any holds = true := by
  obtain ⟨node, found, held⟩ := (Option.any_eq_true _ _).mp held
  obtain ⟨other, foundOther, alike⟩ := grown place node found
  rw [foundOther, Option.any_some, ← blind other, alike, blind node, held]

theorem isDirectory_kept (grown : Grown before after) (held : before.isDirectory place = true) :
    after.isDirectory place = true :=
  grown.holds_kept FileNode.isDirectory_shape held

theorem permits_kept {access : Access} (grown : Grown before after)
    (held : before.permits user access place = true) : after.permits user access place = true :=
  grown.holds_kept (FileNode.permits_shape · user access) held

theorem link_kept {target : Path} (grown : Grown before after)
    (found : before.node? place = some (.link target)) :
    after.node? place = some (.link target) := by
  rcases grown place (.link target) found with ⟨other, foundOther, alike⟩
  rw [foundOther, FileNode.eq_link_of_shape alike]

theorem other_kept {node : FileNode} (grown : Grown before after)
    (found : before.node? place = some node) (noLink : ∀ target, node ≠ .link target) :
    ∃ other, after.node? place = some other ∧ ∀ target, other ≠ .link target := by
  rcases grown place node found with ⟨other, foundOther, alike⟩
  refine ⟨other, foundOther, fun target isLink => noLink target ?_⟩
  subst isLink
  exact FileNode.eq_link_of_shape alike.symm

end Grown

/-! ## One step -/

/-- A step can be taken from a place: there is a directory, and the user may look for names in it,
unless the step is not about what is in it. -/
structure Admits (files : Files) (user : User) (here : Place) (step : Path.Step) : Prop where
  isDirectory : files.isDirectory here = true
  searchable : step ≠ .close → files.permits user .execute here = true

theorem admits_iff {permissions : Permissions}
    (found : files.node? here = some (.directory permissions)) :
    files.Admits user here step ↔
      ¬ (step ≠ .close ∧ (!(FileNode.directory permissions).permits user .execute) = true) := by
  have isDirectory : files.isDirectory here = true :=
    isDirectory_eq_true_iff.mpr ⟨permissions, found⟩
  have searched : files.permits user .execute here =
      (FileNode.directory permissions).permits user .execute := by
    rw [permits, found, Option.any_some]
  rw [not_and, Bool.not_eq_true', Bool.not_eq_false, ← searched]
  exact ⟨Admits.searchable, fun searchable => ⟨isDirectory, searchable⟩⟩

theorem Admits.of_grown (grown : Grown before after) (admits : before.Admits user here step) :
    after.Admits user here step :=
  ⟨grown.isDirectory_kept admits.isDirectory,
    fun inside => grown.permits_kept (admits.searchable inside)⟩

/-- Whether a name is not even looked for. -/
def Refuses (purpose : Purpose) (here : Place) (name : FileName) (rest : List Path.Step) : Prop :=
  purpose = .file ∧ rest = [.close] ∨ nameLimit < name.length ∧ here.isOrphan = false

theorem not_refuses_iff :
    ¬ Refuses purpose here name rest ↔
      ¬ (purpose = .file ∧ rest = [.close]) ∧
        ¬ (nameLimit < name.length ∧ (!here.isOrphan) = true) := by
  rw [Refuses, not_or, Bool.not_eq_true']

theorem stride_root (rest : List Path.Step) :
    files.stride user purpose here (.root :: rest) = files.stride user purpose [] rest := rfl

theorem stride_of_not_admits (notRoot : step ≠ .root) (refused : ¬ files.Admits user here step)
    (rest : List Path.Step) :
    ∃ error, files.stride user purpose here (step :: rest) = .failure error := by
  unfold stride
  cases found : files.node? here with
  | none => exact ⟨.notFound, by cases step <;> simp_all⟩
  | some node =>
      cases node with
      | directory permissions =>
          have denied := Decidable.not_not.mp (mt (admits_iff found).mpr refused)
          exact ⟨.permissionDenied, by cases step <;> simp_all⟩
      | file permissions content | device permissions | link target =>
          exact ⟨.notDirectory, by cases step <;> simp_all⟩

/-- What becomes of a step that can be taken. -/
theorem stride_of_admits (admits : files.Admits user here step) (rest : List Path.Step) :
    files.stride user purpose here (step :: rest) =
      match step with
      | .root => files.stride user purpose [] rest
      | .stay | .close => files.stride user purpose here rest
      | .up => files.stride user purpose here.tail rest
      | .name name =>
          if purpose = .file ∧ rest = [.close] then .failure .isDirectory
          else if nameLimit < name.length ∧ !here.isOrphan then .failure .nameTooLong
          else
            match files.node? (name :: here) with
            | none => if rest.isEmpty then vacancy here name else .failure .notFound
            | some (.link target) =>
                if rest.isEmpty && !purpose.follows then .arrival (.present (name :: here))
                else .link here target rest
            | some _ => files.stride user purpose (name :: here) rest := by
  obtain ⟨permissions, found⟩ := isDirectory_eq_true_iff.mp admits.isDirectory
  have allowed := (admits_iff found).mp admits
  conv =>
    lhs
    unfold stride
  cases step with
  | root => rfl
  | stay | close | up | name name =>
      rw [found]
      exact if_neg allowed

section Named

variable (admits : files.Admits user here (.name name))
include admits

theorem stride_name_of_refuses (refuses : Refuses purpose here name rest) :
    ∃ error, files.stride user purpose here (.name name :: rest) = .failure error := by
  rw [stride_of_admits admits]
  by_cases asked : purpose = .file ∧ rest = [.close]
  · exact ⟨.isDirectory, if_pos asked⟩
  · have tooLong := refuses.resolve_left asked
    exact ⟨.nameTooLong, by simp only [if_neg asked, if_pos, tooLong, Bool.not_false, and_self]⟩

variable (accepts : ¬ Refuses purpose here name rest)
include accepts

theorem stride_name_of_vacant (vacant : files.node? (name :: here) = none) :
    files.stride user purpose here (.name name :: rest) =
      if rest.isEmpty then vacancy here name else .failure .notFound := by
  rcases not_refuses_iff.mp accepts with ⟨allowed, short⟩
  simp only [stride_of_admits admits, vacant, if_neg allowed, if_neg short]

theorem stride_name_of_link {target : Path}
    (isLink : files.node? (name :: here) = some (.link target)) :
    files.stride user purpose here (.name name :: rest) =
      if rest.isEmpty && !purpose.follows then .arrival (.present (name :: here))
      else .link here target rest := by
  rcases not_refuses_iff.mp accepts with ⟨allowed, short⟩
  simp only [stride_of_admits admits, isLink, if_neg allowed, if_neg short]

theorem stride_name_of_other {node : FileNode} (found : files.node? (name :: here) = some node)
    (noLink : ∀ target, node ≠ .link target) :
    files.stride user purpose here (.name name :: rest) =
      files.stride user purpose (name :: here) rest := by
  rcases not_refuses_iff.mp accepts with ⟨allowed, short⟩
  cases node with
  | link target => exact absurd rfl (noLink target)
  | directory permissions | file permissions content | device permissions =>
      simp only [stride_of_admits admits, found, if_neg allowed, if_neg short]

end Named

/-! ## Walks in a grown tree -/

/-- Where a walk that came to an arrival comes to in a tree that has grown since: to what was
present, or to what was put at the vacant name. -/
inductive EndsAt (after : Files) : Arrival → Place → Prop
  | present (place : Place) : EndsAt after (.present place) place
  | filled {directory : Place} {name : FileName} {node : FileNode}
      (found : after.node? (name :: directory) = some node)
      (noLink : ∀ target, node ≠ .link target) :
      EndsAt after (.vacant directory name) (name :: directory)

/-- An arrival that a tree bears out: what is said to be vacant is. -/
def Fits (files : Files) : Arrival → Prop
  | .present _ => True
  | .vacant directory name => files.node? (name :: directory) = none

/-- How a stride in a tree that has grown continues one in the tree before: it meets the same link,
or it comes to the end of the other one. -/
def Continues (before after : Files) : Stride → Stride → Prop
  | .failure _, _ => True
  | .arrival arrival, later =>
      Fits before arrival ∧ ∀ place, EndsAt after arrival place → later = .arrival (.present place)
  | .link directory target rest, later => later = .link directory target rest

/-- One purpose asks for no more than another, and takes links in the same way. -/
structure NoStricter (purpose other : Purpose) : Prop where
  follows : other.follows = purpose.follows
  file : other = .file → purpose = .file

theorem NoStricter.refl (purpose : Purpose) : NoStricter purpose purpose := ⟨rfl, id⟩

/-- What is opened is also found. -/
theorem NoStricter.target_of_file : NoStricter .file .target := ⟨rfl, nofun⟩

theorem NoStricter.not_refuses (noStricter : NoStricter purpose other)
    (accepts : ¬ Refuses purpose here name rest) : ¬ Refuses other here name rest := by
  rintro (⟨isFile, closed⟩ | tooLong)
  · exact accepts (Or.inl ⟨noStricter.file isFile, closed⟩)
  · exact accepts (Or.inr tooLong)

theorem continues_of_failure {stride : Stride} (fails : ∃ error, stride = .failure error)
    (later : Stride) : Continues before after stride later := by
  rcases fails with ⟨error, rfl⟩
  trivial

/-- A name that was vacant ends the walk before, and what was put there ends the one after. -/
theorem continues_of_vacant (noStricter : NoStricter purpose other) (grown : Grown before after)
    (admits : before.Admits user here (.name name))
    (accepts : ¬ Refuses purpose here name rest) (vacant : before.node? (name :: here) = none) :
    Continues before after (before.stride user purpose here (.name name :: rest))
      (after.stride user other here (.name name :: rest)) := by
  rw [stride_name_of_vacant admits accepts vacant]
  cases rest with
  | cons next rest => trivial
  | nil =>
      rw [if_pos List.isEmpty_nil, vacancy]
      cases here.isOrphan with
      | true => trivial
      | false =>
          refine ⟨vacant, fun place ends => ?_⟩
          cases ends with
          | filled found noLink =>
              rw [stride_name_of_other (admits.of_grown grown) (noStricter.not_refuses accepts)
                found noLink]
              rfl

theorem stride_continues (noStricter : NoStricter purpose other) (grown : Grown before after)
    (user : User) (here : Place) (steps : List Path.Step) :
    Continues before after (before.stride user purpose here steps)
      (after.stride user other here steps) := by
  induction steps generalizing here with
  | nil =>
      refine ⟨trivial, ?_⟩
      rintro place ⟨⟩
      rfl
  | cons step rest ih =>
      by_cases isRoot : step = .root
      · subst isRoot
        rw [stride_root, stride_root]
        exact ih []
      by_cases admits : before.Admits user here step
      · have still := admits.of_grown grown
        cases step with
        | root => exact absurd rfl isRoot
        | stay | close =>
            rw [stride_of_admits admits, stride_of_admits still]
            exact ih here
        | up =>
            rw [stride_of_admits admits, stride_of_admits still]
            exact ih here.tail
        | name name =>
            by_cases refuses : Refuses purpose here name rest
            · exact continues_of_failure (stride_name_of_refuses admits refuses) _
            have accepts := noStricter.not_refuses refuses
            cases found : before.node? (name :: here) with
            | none => exact continues_of_vacant noStricter grown admits refuses found
            | some node =>
                by_cases isLink : ∃ target, node = .link target
                · rcases isLink with ⟨target, rfl⟩
                  rw [stride_name_of_link admits refuses found,
                    stride_name_of_link still accepts (grown.link_kept found), noStricter.follows]
                  split
                  · refine ⟨trivial, ?_⟩
                    rintro place ⟨⟩
                    rfl
                  · rfl
                · have noLink := not_exists.mp isLink
                  rcases grown.other_kept found noLink with ⟨kept, foundKept, keptNoLink⟩
                  rw [stride_name_of_other admits refuses found noLink,
                    stride_name_of_other still accepts foundKept keptNoLink]
                  exact ih (name :: here)
      · exact continues_of_failure (stride_of_not_admits isRoot admits rest) _

/-- A walk ends with a stride that meets no link. -/
theorem walkWithin_eq_ok {links left : Nat} {steps : List Path.Step} {arrival : Arrival} :
    files.walkWithin user purpose links here steps = .ok (arrival, left) ↔
      files.stride user purpose here steps = .arrival arrival ∧ left = links ∨
        ∃ directory target rest fewer, links = fewer + 1 ∧
          files.stride user purpose here steps = .link directory target rest ∧
          files.walkWithin user purpose fewer directory (target.steps ++ rest) =
            .ok (arrival, left) := by
  cases links with
  | zero =>
      rw [walkWithin]
      cases files.stride user purpose here steps <;> simp [eq_comm]
  | succ fewer =>
      rw [walkWithin]
      cases files.stride user purpose here steps with
      | failure error => simp
      | arrival found => simp [eq_comm]
      | link directory target rest =>
          constructor
          · intro onward
            exact Or.inr ⟨directory, target, rest, fewer, rfl, rfl, onward⟩
          · rintro (⟨⟨⟩, -⟩ | ⟨_, _, _, _, ⟨⟩, ⟨⟩, onward⟩)
            exact onward

theorem walkWithin_of_grown (noStricter : NoStricter purpose other) (grown : Grown before after)
    {links left : Nat} {steps : List Path.Step} {arrival : Arrival}
    (walked : before.walkWithin user purpose links here steps = .ok (arrival, left))
    (ends : EndsAt after arrival place) :
    after.walkWithin user other links here steps = .ok (.present place, left) := by
  induction links using Nat.strongRecOn generalizing here steps with
  | ind links ih =>
      have continues := stride_continues noStricter grown user here steps
      rcases walkWithin_eq_ok.mp walked with
        ⟨met, rfl⟩ | ⟨directory, target, rest, fewer, rfl, met, onward⟩
      · rw [met] at continues
        exact walkWithin_eq_ok.mpr (Or.inl ⟨continues.2 place ends, rfl⟩)
      · rw [met] at continues
        exact walkWithin_eq_ok.mpr
          (Or.inr ⟨directory, target, rest, fewer, rfl, continues,
            ih fewer fewer.lt_succ_self onward⟩)

theorem fits_of_stride {steps : List Path.Step} {arrival : Arrival}
    (met : files.stride user purpose here steps = .arrival arrival) : Fits files arrival := by
  have continues := stride_continues (NoStricter.refl purpose) (Grown.refl files) user here steps
  rw [met] at continues
  exact continues.1

theorem fits_of_walkWithin {links left : Nat} {steps : List Path.Step} {arrival : Arrival}
    (walked : files.walkWithin user purpose links here steps = .ok (arrival, left)) :
    Fits files arrival := by
  induction links using Nat.strongRecOn generalizing here steps with
  | ind links ih =>
      rcases walkWithin_eq_ok.mp walked with
        ⟨met, rfl⟩ | ⟨directory, target, rest, fewer, rfl, met, onward⟩
      · exact fits_of_stride met
      · exact ih fewer fewer.lt_succ_self onward

theorem walk_eq_ok {arrival : Arrival} :
    files.walk user purpose here path = .ok arrival ↔
      ((path.bytes.isEmpty || path.bytes.contains 0) = false ∧ path.bytes.length ≤ pathLimit) ∧
        ∃ left, files.walkWithin user purpose linkLimit here path.steps = .ok (arrival, left) := by
  rw [walk]
  cases path.bytes.isEmpty || path.bytes.contains 0 with
  | true => simp
  | false =>
      by_cases tooLong : pathLimit < path.bytes.length
      · simp [tooLong, Nat.not_le.mpr tooLong]
      · cases files.walkWithin user purpose linkLimit here path.steps with
        | error error => simp [tooLong, Except.map]
        | ok result => simp [tooLong, Except.map, Nat.not_lt.mp tooLong, Prod.ext_iff]

theorem fits_of_walk {arrival : Arrival} (walked : files.walk user purpose here path = .ok arrival) :
    Fits files arrival := by
  rcases walk_eq_ok.mp walked with ⟨-, left, within⟩
  exact fits_of_walkWithin within

theorem walk_of_grown (noStricter : NoStricter purpose other) (grown : Grown before after)
    {arrival : Arrival} (walked : before.walk user purpose here path = .ok arrival)
    (ends : EndsAt after arrival place) :
    after.walk user other here path = .ok (.present place) := by
  rcases walk_eq_ok.mp walked with ⟨usable, left, within⟩
  exact walk_eq_ok.mpr ⟨usable, left, walkWithin_of_grown noStricter grown within ends⟩

/-! ## What a path leads to -/

/-- Links followed, a path leads to something at a place. -/
def LeadsTo (files : Files) (user : User) (directory : Place) (path : Path) (place : Place) :
    Prop :=
  ∃ node, files.find user directory path = .ok (place, node)

theorem find_eq_ok_iff {node : FileNode} :
    files.find user here path = .ok (place, node) ↔
      files.walk user .target here path = .ok (.present place) ∧ files.node? place = some node := by
  rw [find]
  cases walked : files.walk user .target here path with
  | error error => simp [bind, Except.bind]
  | ok arrival =>
      cases arrival with
      | vacant directory name => simp [bind, Except.bind]
      | present reached =>
          simp only [bind, Except.bind, Except.ok.injEq, Arrival.present.injEq]
          cases found : files.node? reached with
          | none =>
              constructor
              · rintro ⟨⟩
              · rintro ⟨rfl, foundToo⟩
                simp [found] at foundToo
          | some present =>
              constructor
              · rintro ⟨⟩
                exact ⟨rfl, found⟩
              · rintro ⟨rfl, foundToo⟩
                rw [found] at foundToo
                cases foundToo
                rfl

theorem leadsTo_iff :
    files.LeadsTo user here path place ↔
      files.walk user .target here path = .ok (.present place) ∧
        ∃ node, files.node? place = some node := by
  simp only [LeadsTo, find_eq_ok_iff, exists_and_left]

instance decidableLeadsTo (files : Files) (user : User) (directory : Place) (path : Path)
    (place : Place) : Decidable (files.LeadsTo user directory path place) :=
  match found : files.find user directory path with
  | .error _ => isFalse (by simp [LeadsTo, found])
  | .ok (reached, _) => decidable_of_iff (reached = place) (by simp [LeadsTo, found])

theorem LeadsTo.of_grown (grown : Grown before after) (leads : before.LeadsTo user here path place) :
    after.LeadsTo user here path place := by
  rcases leadsTo_iff.mp leads with ⟨walked, node, found⟩
  rcases grown place node found with ⟨kept, foundKept, -⟩
  exact leadsTo_iff.mpr
    ⟨walk_of_grown (NoStricter.refl .target) grown walked (.present place), kept, foundKept⟩

end Files

end RunLine
