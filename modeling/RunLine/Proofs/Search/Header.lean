import RunLine.Proofs.Search.Candidates

/-!
# What a class depends on

A name that leads nowhere has no class.  Otherwise the file that it leads to decides, and of that
file one byte: whether it can be read, whether it is long enough to have that byte, and which one it
is.  So files that have the byte in common are of one class, whatever else is in them and wherever
they lie.
-/

namespace RunLine

variable {host : Host} {searchPath : Option Bytes} {osAbi : UInt8} {name : Text}

namespace Elf

/-- The OS/ABI number is the eighth byte. -/
theorem Ident.osAbi_ofBytes? (content : Bytes) :
    (ofBytes? content).map Ident.osAbi = content[7]? := by
  match content with
  | [] | [_] | [_, _] | [_, _, _] | [_, _, _, _] | [_, _, _, _, _] | [_, _, _, _, _, _]
  | [_, _, _, _, _, _, _] => rfl
  | _ :: _ :: _ :: _ :: _ :: _ :: _ :: _ :: _ => rfl

/-- The class of a file, by what came of reading it. -/
def classOf (path : Path) (osAbi : UInt8) : Except FileError Bytes → Except Unclassified BinaryClass
  | .error _ => .error (.unreadable path)
  | .ok content =>
      match content[7]? with
      | none => .error (.shortHeader path)
      | some byte => .ok (if byte = osAbi then .sandboxed else .host)

/-- An answer about a file that was read: it says what went wrong and with which file, or else
whether the OS/ABI number is the one in question. -/
structure Judges (answer : Except Unclassified BinaryClass) (path : Path) (osAbi : UInt8)
    (read : Except FileError Bytes) : Prop where
  notFound : ∀ missing, answer ≠ .error (.notFound missing)
  unreadable : ∀ named, answer = .error (.unreadable named) ↔
    named = path ∧ ∃ cause, read = .error cause
  shortHeader : ∀ named, answer = .error (.shortHeader named) ↔
    named = path ∧ ∃ content, read = .ok content ∧ content.length < 8
  sandboxed : answer = .ok .sandboxed ↔
    ∃ content, read = .ok content ∧ content[7]? = some osAbi
  host : answer = .ok .host ↔
    ∃ content byte, read = .ok content ∧ content[7]? = some byte ∧ byte ≠ osAbi

theorem judges_classOf (path : Path) (osAbi : UInt8) (read : Except FileError Bytes) :
    Judges (classOf path osAbi read) path osAbi read := by
  cases read with
  | error cause => constructor <;> simp [classOf, eq_comm]
  | ok content =>
      cases at7 : content[7]? with
      | none =>
          have short : content.length < 8 := Nat.lt_succ_of_le (List.getElem?_eq_none_iff.mp at7)
          constructor <;> simp [classOf, at7, short, eq_comm]
      | some byte =>
          have long : ¬ content.length < 8 := by
            obtain ⟨inside, -⟩ := List.getElem?_eq_some_iff.mp at7
            exact Nat.not_lt.mpr inside
          by_cases same : byte = osAbi
          · constructor <;> simp [classOf, at7, long, same]
          · constructor <;> simp [classOf, at7, long, same]

end Elf

namespace Host

theorem classify_eq_bind (host : Host) (searchPath : Option Bytes) (osAbi : UInt8) (name : Text) :
    host.classify searchPath osAbi name =
      (host.locate searchPath name).bind fun path => Elf.classOf path osAbi (host.read path) := by
  rw [classify]
  cases host.locate searchPath name with
  | error error => rfl
  | ok path =>
      simp only [bind, Except.bind, Elf.Ident.read, Elf.classOf]
      cases host.read path with
      | error cause => rfl
      | ok content =>
          simp only [← Elf.Ident.osAbi_ofBytes?]
          cases Elf.Ident.ofBytes? content with
          | none => rfl
          | some ident =>
              simp only [Option.map_some]
              split <;> rfl

theorem eq_notFound_of_locate {error : Unclassified}
    (failed : host.locate searchPath name = .error error) : error = .notFound name :=
  (locateFrom_eq_error_iff.mp failed).1

/-- A name that leads nowhere is said to be missing, and no other name is. -/
theorem classify_eq_notFound_iff {missing : Text} :
    host.classify searchPath osAbi name = .error (.notFound missing) ↔
      missing = name ∧ ∃ error, host.locate searchPath name = .error error := by
  rw [classify_eq_bind]
  cases located : host.locate searchPath name with
  | error error =>
      rw [eq_notFound_of_locate located]
      simp [Except.bind, eq_comm]
  | ok path =>
      have judges := Elf.judges_classOf path osAbi (host.read path)
      simpa [Except.bind] using judges.notFound missing

/-- A name leads to a file that can be read and has a byte for its eighth one. -/
def LeadsToByte (host : Host) (searchPath : Option Bytes) (name : Text) (byte : UInt8) : Prop :=
  ∃ path content, host.locate searchPath name = .ok path ∧ host.read path = .ok content ∧
    content[7]? = some byte

theorem LeadsToByte.classify_eq {byte : UInt8} (leads : host.LeadsToByte searchPath name byte) :
    host.classify searchPath osAbi name = .ok (if byte = osAbi then .sandboxed else .host) := by
  obtain ⟨path, content, located, read, at7⟩ := leads
  rw [classify_eq_bind, located]
  simp only [Except.bind, Elf.classOf, read, at7]

/-- What a class depends on.  A name has none exactly if it leads nowhere, and that is said of the
name.  The file that it leads to is of the class of its eighth byte, unless it cannot be read or has
no such byte, and that is said of the file.  Two hosts on which the name leads to files with the
same eighth byte answer alike. -/
theorem classify_by_one_byte (host : Host) (searchPath : Option Bytes) (osAbi : UInt8)
    (name : Text) :
    (∀ missing, host.classify searchPath osAbi name = .error (.notFound missing) ↔
      missing = name ∧ ∃ error, host.locate searchPath name = .error error) ∧
      (∀ path, host.locate searchPath name = .ok path →
        Elf.Judges (host.classify searchPath osAbi name) path osAbi (host.read path)) ∧
      ∀ (other : Host) (byte : UInt8), host.LeadsToByte searchPath name byte →
        other.LeadsToByte searchPath name byte →
          other.classify searchPath osAbi name = host.classify searchPath osAbi name := by
  refine ⟨fun missing => classify_eq_notFound_iff, ?_, ?_⟩
  · intro path located
    rw [classify_eq_bind, located]
    exact Elf.judges_classOf path osAbi (host.read path)
  · intro other byte leads otherLeads
    rw [leads.classify_eq, otherLeads.classify_eq]

/-- The host with another binary of the same name, which has only the eighth byte in common and may
not be executed. -/
def rebuilt : Host :=
  { sample with
    files := sample.files.put (Place.lit ["work", "app"])
      (.file (.ofMode 0o644) (some [0, 0, 0, 0, 0, 0, 0, 123, 1])) }

/-- Both binaries are for the sandbox, and the one that is cut short is named in the error. -/
theorem classify_by_one_byte_sample :
    sample.classify none 123 (Text.lit "app") = .ok .sandboxed ∧
      rebuilt.classify none 123 (Text.lit "app") = .ok .sandboxed ∧
      sample.classify none 123 (Text.lit "cut") = .error (.shortHeader (Path.lit "/work/cut")) := by
  obtain ⟨-, judged, alike⟩ := classify_by_one_byte sample none 123 (Text.lit "app")
  obtain ⟨-, judgedShort, -⟩ := classify_by_one_byte sample none 123 (Text.lit "cut")
  have located : sample.locate none (Text.lit "app") = .ok (Path.lit "/work/app") := by
    decide +kernel
  have read : sample.read (Path.lit "/work/app") = .ok [127, 69, 76, 70, 2, 1, 1, 123] := by
    decide +kernel
  have locatedShort : sample.locate none (Text.lit "cut") = .ok (Path.lit "/work/cut") := by
    decide +kernel
  have rebuiltLeads : rebuilt.LeadsToByte none (Text.lit "app") 123 :=
    ⟨Path.lit "/work/app", [0, 0, 0, 0, 0, 0, 0, 123, 1], by decide +kernel, by decide +kernel, rfl⟩
  have sandboxed : sample.classify none 123 (Text.lit "app") = .ok .sandboxed :=
    (judged _ located).sandboxed.mpr ⟨_, read, rfl⟩
  have same := alike rebuilt 123 ⟨_, _, located, read, rfl⟩ rebuiltLeads
  have short := ((judgedShort _ locatedShort).shortHeader (Path.lit "/work/cut")).mpr
    ⟨rfl, [127, 69, 76, 70], by decide +kernel, by decide⟩
  exact ⟨sandboxed, same.trans sandboxed, short⟩

end Host

end RunLine
