import RunLine.Proofs.Settings.Layers
import RunLine.Search

/-!
# What a search finds

A name stands for a regular file right under the directory that a search starts from, and then for
nothing else.  Otherwise it stands for the first executable among its candidates: the file that an
absolute name or one of several components spells, or what a bare name spells under the entries of
a search path.  So a search through one list after another is a search through the two lists joined,
and an entry is never shadowed by a later one.
-/

namespace RunLine.Host

variable {host : Host} {searchPath : Option Bytes} {name : Text} {directory path : Path}

/-! ## Regular files -/

theorem isFile_iff :
    host.isFile path = true ↔
      ∃ permissions content, host.found? path = some (.file permissions content) := by
  rw [isFile]
  cases host.found? path with
  | none => simp
  | some node => cases node <;> simp [FileNode.isFile]

theorem isExecutable_iff :
    host.isExecutable path = true ↔ ∃ permissions content,
      host.found? path = some (.file permissions content) ∧
        (FileNode.file permissions content).permits host.user .execute = true := by
  rw [isExecutable]
  cases host.found? path with
  | none => simp
  | some node => cases node <;> simp [FileNode.isFile]

/-! ## Candidates -/

/-- The files that a name may stand for in a search from a directory. -/
inductive IsCandidate (host : Host) (searchPath : Option Bytes) (name : Text) (directory : Path) :
    Path → Prop
  /-- Right under the directory any regular file will do. -/
  | direct (isFile : host.isFile (directory.join (.ofText name)) = true) :
      IsCandidate host searchPath name directory (directory.join (.ofText name))
  | absolute (isAbsolute : (Path.ofText name).isAbsolute = true)
      (executable : host.isExecutable (.ofText name) = true) :
      IsCandidate host searchPath name directory (.ofText name)
  | nested (relative : (Path.ofText name).isAbsolute = false)
      (several : 1 < (Path.ofText name).components.length)
      (executable :
        host.isExecutable (directory.extend (Path.ofText name).properComponents) = true) :
      IsCandidate host searchPath name directory
        (directory.extend (Path.ofText name).properComponents)
  /-- A bare name under an entry of the search path, which is that of the environment where none is
  given. -/
  | listed {list entry : Bytes} (relative : (Path.ofText name).isAbsolute = false)
      (bare : (Path.ofText name).components.length ≤ 1)
      (searched : searchPath.or host.searchPath = some list)
      (isEntry : entry ∈ list.splitOn entrySeparator)
      (executable :
        host.isExecutable ((entryDirectory host.home directory ⟨entry⟩).join (.ofText name)) =
          true) :
      IsCandidate host searchPath name directory
        ((entryDirectory host.home directory ⟨entry⟩).join (.ofText name))

section Forms

variable {name : Path} {searchPath : Option Bytes}

theorem candidates_of_isAbsolute (isAbsolute : name.isAbsolute = true) :
    host.candidates searchPath name directory = [name] := by
  simp only [candidates, isAbsolute, if_true]

theorem candidates_of_several (relative : name.isAbsolute = false)
    (several : 1 < name.components.length) :
    host.candidates searchPath name directory = [directory.extend name.properComponents] := by
  simp only [candidates, relative, several, Bool.false_eq_true, if_false, if_true]

theorem candidates_of_bare (relative : name.isAbsolute = false)
    (bare : name.components.length ≤ 1) :
    host.candidates searchPath name directory =
      searchPath.elim [] fun list => host.listed list name directory := by
  simp only [candidates, relative, Nat.not_lt.mpr bare, Bool.false_eq_true, if_false]
  cases searchPath <;> rfl

end Forms

/-- Besides the direct one the candidates are the executables among what is tried. -/
theorem isCandidate_iff :
    host.IsCandidate searchPath name directory path ↔
      path = directory.join (.ofText name) ∧ host.isFile path = true ∨
        path ∈ host.candidates (searchPath.or host.searchPath) (.ofText name) directory ∧
          host.isExecutable path = true := by
  constructor
  · intro isCandidate
    cases isCandidate with
    | direct isFile => exact Or.inl ⟨rfl, isFile⟩
    | absolute isAbsolute executable =>
        exact Or.inr ⟨by simp [candidates_of_isAbsolute isAbsolute], executable⟩
    | nested relative several executable =>
        exact Or.inr ⟨by simp [candidates_of_several relative several], executable⟩
    | listed relative bare searched isEntry executable =>
        refine Or.inr ⟨?_, executable⟩
        rw [candidates_of_bare relative bare, searched]
        exact List.mem_map.mpr ⟨_, isEntry, rfl⟩
  · rintro (⟨rfl, isFile⟩ | ⟨member, executable⟩)
    · exact .direct isFile
    · cases relative : (Path.ofText name).isAbsolute with
      | true =>
          rw [candidates_of_isAbsolute relative, List.mem_singleton] at member
          subst member
          exact .absolute relative executable
      | false =>
          by_cases several : 1 < (Path.ofText name).components.length
          · rw [candidates_of_several relative several, List.mem_singleton] at member
            subst member
            exact .nested relative several executable
          · have bare := Nat.not_lt.mp several
            rw [candidates_of_bare relative bare] at member
            cases searched : searchPath.or host.searchPath with
            | none => simp [searched] at member
            | some list =>
                rw [searched] at member
                obtain ⟨entry, isEntry, rfl⟩ := List.mem_map.mp member
                exact .listed relative bare searched isEntry executable

/-! ## The search -/

theorem locateFrom_of_isFile (isFile : host.isFile (directory.join (.ofText name)) = true) :
    host.locateFrom searchPath name directory = .ok (directory.join (.ofText name)) := by
  simp only [locateFrom, isFile, if_true]

theorem locateFrom_of_not_isFile (noFile : host.isFile (directory.join (.ofText name)) = false) :
    host.locateFrom searchPath name directory =
      ((host.candidates (searchPath.or host.searchPath) (.ofText name) directory).find?
        host.isExecutable).elim (.error (.notFound name)) .ok := by
  simp only [locateFrom, noFile, Bool.false_eq_true, if_false]
  cases List.find? host.isExecutable
    (host.candidates (searchPath.or host.searchPath) (.ofText name) directory) <;> rfl

theorem listed_append (first later : Bytes) (name directory : Path) :
    host.listed (first ++ entrySeparator :: later) name directory =
      host.listed first name directory ++ host.listed later name directory := by
  rw [listed, List.splitOn_append_cons_self, List.map_append, listed, listed]

/-- What is tried under two lists joined is what is tried under the one and then under the other,
and what is tried without a list can as well be tried twice. -/
theorem find?_candidates_append (first later : Bytes) (name directory : Path) :
    (host.candidates (some (first ++ entrySeparator :: later)) name directory).find?
        host.isExecutable =
      ((host.candidates (some first) name directory).find? host.isExecutable).or
        ((host.candidates (some later) name directory).find? host.isExecutable) := by
  cases relative : name.isAbsolute with
  | true => simp only [candidates_of_isAbsolute relative, Option.or_self]
  | false =>
      by_cases several : 1 < name.components.length
      · simp only [candidates_of_several relative several, Option.or_self]
      · have bare := Nat.not_lt.mp several
        simp only [candidates_of_bare relative bare, Option.elim_some]
        rw [listed_append, List.find?_append]

theorem isCandidate_of_locateFrom (located : host.locateFrom searchPath name directory = .ok path) :
    host.IsCandidate searchPath name directory path := by
  cases isFile : host.isFile (directory.join (.ofText name)) with
  | true =>
      rw [locateFrom_of_isFile isFile, Except.ok.injEq] at located
      subst located
      exact .direct isFile
  | false =>
      rw [locateFrom_of_not_isFile isFile] at located
      cases found : (host.candidates (searchPath.or host.searchPath) (.ofText name)
          directory).find? host.isExecutable with
      | none => simp [found] at located
      | some first =>
          rw [found, Option.elim_some, Except.ok.injEq] at located
          subst located
          exact isCandidate_iff.mpr
            (Or.inr ⟨List.mem_of_find?_eq_some found, List.find?_some found⟩)

theorem locateFrom_eq_error_iff {error : Unclassified} :
    host.locateFrom searchPath name directory = .error error ↔
      error = .notFound name ∧ ∀ path, ¬ host.IsCandidate searchPath name directory path := by
  cases isFile : host.isFile (directory.join (.ofText name)) with
  | true =>
      rw [locateFrom_of_isFile isFile]
      simp only [reduceCtorEq, false_iff, not_and, not_forall, not_not]
      exact fun _ => ⟨_, .direct isFile⟩
  | false =>
      have unlisted : (∀ path, ¬ host.IsCandidate searchPath name directory path) ↔
          ∀ path ∈ host.candidates (searchPath.or host.searchPath) (.ofText name) directory,
            ¬ host.isExecutable path = true := by
        simp only [isCandidate_iff]
        constructor
        · intro none path member executable
          exact none path (Or.inr ⟨member, executable⟩)
        · rintro none path (⟨rfl, isFileToo⟩ | ⟨member, executable⟩)
          · simp [isFile] at isFileToo
          · exact none path member executable
      rw [locateFrom_of_not_isFile isFile, unlisted, ← List.find?_eq_none]
      cases (host.candidates (searchPath.or host.searchPath) (.ofText name) directory).find?
          host.isExecutable with
      | none => simp [eq_comm]
      | some path => simp

/-- What a search from a directory finds.  A regular file of the name right there is found whatever
may be done with it and wherever else is searched.  A search along two lists joined finds what the
first one leads to, and else what the second one does.  Whatever is found is a candidate and a
regular file, and one that the user may execute unless it is the direct hit.  The search fails exactly if there
is no candidate, and it says which name was not found. -/
theorem locateFrom_finds (host : Host) (name : Text) (directory : Path) :
    (∀ searchPath permissions content,
      host.found? (directory.join (.ofText name)) = some (.file permissions content) →
        host.locateFrom searchPath name directory = .ok (directory.join (.ofText name))) ∧
      (∀ first later : Bytes,
        host.locateFrom (some (first ++ entrySeparator :: later)) name directory =
          match host.locateFrom (some first) name directory with
          | .ok path => .ok path
          | .error _ => host.locateFrom (some later) name directory) ∧
      (∀ list, host.searchPath = some list →
        host.locateFrom none name directory = host.locateFrom (some list) name directory) ∧
      (∀ searchPath path, host.locateFrom searchPath name directory = .ok path →
        host.IsCandidate searchPath name directory path ∧
          ∃ permissions content, host.found? path = some (.file permissions content) ∧
            (path ≠ directory.join (.ofText name) →
              (FileNode.file permissions content).permits host.user .execute = true)) ∧
      ∀ searchPath error, host.locateFrom searchPath name directory = .error error ↔
        error = .notFound name ∧ ∀ path, ¬ host.IsCandidate searchPath name directory path := by
  refine ⟨?_, ?_, ?_, ?_, fun _ _ => locateFrom_eq_error_iff⟩
  · intro searchPath permissions content found
    exact locateFrom_of_isFile (isFile_iff.mpr ⟨permissions, content, found⟩)
  · intro first later
    cases isFile : host.isFile (directory.join (.ofText name)) with
    | true => simp only [locateFrom_of_isFile isFile]
    | false =>
        simp only [locateFrom_of_not_isFile isFile, Option.some_or, find?_candidates_append]
        cases (host.candidates (some first) (.ofText name) directory).find? host.isExecutable <;>
          rfl
  · intro list environment
    rw [locateFrom, locateFrom, environment, Option.none_or, Option.some_or]
  · intro searchPath path located
    have isCandidate := isCandidate_of_locateFrom located
    refine ⟨isCandidate, ?_⟩
    rcases isCandidate_iff.mp isCandidate with ⟨isDirect, isFile⟩ | ⟨-, executable⟩
    · obtain ⟨permissions, content, found⟩ := isFile_iff.mp isFile
      exact ⟨permissions, content, found, absurd isDirect⟩
    · obtain ⟨permissions, content, found, executes⟩ := isExecutable_iff.mp executable
      exact ⟨permissions, content, found, fun _ => executes⟩

/-- A host with a text and a directory in the working directory that bear the names of tools.  Where
tools are searched the first one is a text as well. -/
def tools : Host where
  files := Files.empty
    |>.put (Place.lit ["work"]) .openDirectory
    |>.put (Place.lit ["work", "count"]) (.openText "")
    |>.put (Place.lit ["work", "sort"]) .openDirectory
    |>.put (Place.lit ["lib"]) .openDirectory
    |>.put (Place.lit ["lib", "sort"]) (.openText "")
    |>.put (Place.lit ["bin"]) .openDirectory
    |>.put (Place.lit ["bin", "count"]) (.file (.ofMode 0o755) (some []))
    |>.put (Place.lit ["bin", "sort"]) (.file (.ofMode 0o755) (some []))
  user := .root
  room := none
  directory := Place.lit ["work"]
  home := some (Path.lit "/home")
  account := none
  searchPath := some (Path.lit "/lib:/bin").bytes
  stateHome := none
  logFilter := none

/-- The text is found before the tool of its name, the directory is not found, and what is missing
is no candidate anywhere. -/
theorem locateFrom_finds_tools :
    tools.locateFrom none (Text.lit "count") (Path.lit "/work") = .ok (Path.lit "/work/count") ∧
      tools.locateFrom none (Text.lit "sort") (Path.lit "/work") = .ok (Path.lit "/bin/sort") ∧
      (∃ permissions content,
        tools.found? (Path.lit "/bin/sort") = some (.file permissions content) ∧
          (FileNode.file permissions content).permits tools.user .execute = true) ∧
      ∀ path, ¬ tools.IsCandidate none (Text.lit "uniq") (Path.lit "/work") path := by
  obtain ⟨direct, -, -, -, -⟩ := locateFrom_finds tools (Text.lit "count") (Path.lit "/work")
  obtain ⟨-, either, environment, returned, -⟩ :=
    locateFrom_finds tools (Text.lit "sort") (Path.lit "/work")
  obtain ⟨-, -, -, -, fails⟩ := locateFrom_finds tools (Text.lit "uniq") (Path.lit "/work")
  have sorted : tools.locateFrom none (Text.lit "sort") (Path.lit "/work") =
      .ok (Path.lit "/bin/sort") := by
    rw [environment _ rfl]
    exact (either (Path.lit "/lib").bytes (Path.lit "/bin").bytes).trans (by decide +kernel)
  obtain ⟨-, permissions, content, found, executes⟩ := returned none _ sorted
  have missing := (fails none (.notFound (Text.lit "uniq"))).mp (by decide +kernel)
  exact ⟨direct none (.ofMode 0o644) (some []) (by decide +kernel), sorted,
    ⟨permissions, content, found, executes (by decide +kernel)⟩, missing.2⟩

end RunLine.Host
