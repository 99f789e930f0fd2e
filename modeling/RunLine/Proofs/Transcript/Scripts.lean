import RunLine.Program
import RunLine.Proofs.Json.Encodings
import RunLine.Proofs.Pipeline.Frame
import RunLine.Proofs.Pipeline.Heads
import RunLine.Proofs.Transcript.Lines

/-!
# The scripts of an input

A line states a script or it is refused.  A run prints what the scripts before the first refused
line are rewritten to, then fails and names that line; what comes after it is not looked at.
-/

namespace RunLine

theorem Json.script_eq_ok_iff {value : Json} {script : Text} :
    value.script = .ok script ↔ value = .string script := by
  cases value <;> simp [Json.script]

namespace Transcript

variable {sandbox : Sandbox} {form : LineForm} {line : Bytes} {lines rest : List Bytes}
variable {script : Text} {scripts : List Text}

/-! ## One line -/

/-- A line, without its end, and the script that it states. -/
inductive States : LineForm → Bytes → Text → Prop where
  | plain {script : Text} : States .plain (Utf8.encode script) script
  | json {text script : Text} (spells : Json.SpellsWhole text script) :
      States .json (Utf8.encode text) script

/-- A line that states no script, and what is reported of it. -/
inductive Refused (number : Nat) : LineForm → Bytes → Report → Prop where
  | notText {line : Bytes} (malformed : ∀ text, line ≠ Utf8.encode text) :
      Refused number .plain line
        ⟨Text.lit "Line " ++ Text.ofNat number,
          some (Text.lit "invalid input: expected a string, got non-UTF-8 bytes")⟩
  | notJson {line : Bytes}
      (malformed : ∀ text value, line = Utf8.encode text → Json.read? text ≠ some value) :
      Refused number .json line
        ⟨Text.lit "Line " ++ Text.ofNat number ++ Text.lit ": invalid JSON", none⟩
  | notString {text : Text} {value : Json} {kind : InputKind} (found : Json.read? text = some value)
      (other : value.script = .error kind) :
      Refused number .json (Utf8.encode text)
        ⟨Text.lit "Line " ++ Text.ofNat number,
          some (Text.lit "invalid input: expected a string, got " ++ kind.name)⟩

/-- Reading a line finds its script or a reason to refuse it. -/
theorem readLine_states_or_refused (form : LineForm) (line : Bytes) :
    match readLine form line with
    | .ok script => States form line script
    | .error error => ∀ number, Refused number form line
        ⟨LineFailure.message ⟨number, error⟩, LineFailure.cause? ⟨number, error⟩⟩ := by
  cases form with
  | plain =>
      rw [readLine, scriptOfBytes]
      cases decoded : Utf8.decode? line with
      | none =>
          intro number
          apply Refused.notText
          intro text lineEq
          simp [lineEq] at decoded
      | some text =>
          rw [Utf8.decode?_eq_some_iff.mp decoded]
          exact .plain
  | json =>
      rw [readLine]
      cases decoded : (Utf8.decode? line).bind Json.read? with
      | none =>
          intro number
          apply Refused.notJson
          intro text value lineEq found
          simp [lineEq, found] at decoded
      | some value =>
          rcases Option.bind_eq_some_iff.mp decoded with ⟨text, lineEq, found⟩
          rw [Utf8.decode?_eq_some_iff.mp lineEq]
          cases answer : value.script with
          | error kind =>
              simp only [answer, Except.mapError]
              intro number
              exact .notString found answer
          | ok script =>
              simp only [answer, Except.mapError]
              rw [Json.script_eq_ok_iff.mp answer] at found
              exact .json (Json.read?_eq_string_iff.mp found)

theorem readLine_eq_ok_iff : readLine form line = .ok script ↔ States form line script := by
  constructor
  · intro read
    have stated := readLine_states_or_refused form line
    rwa [read] at stated
  · intro states
    cases states with
    | plain => simp [readLine, scriptOfBytes, Except.mapError]
    | json spells =>
        simp [readLine, Json.read?_eq_string_iff.mpr spells, Json.script, Except.mapError]

/-! ## All lines -/

/-- Scripts are rewritten one by one, and the lines after them are counted on. -/
theorem ofLines_append (sandbox : Sandbox) (number : Nat)
    (states : List.Forall₂ (States form) lines scripts) (rest : List Bytes) :
    ofLines sandbox form number (lines ++ rest) =
      scripts.foldr (cons sandbox) (ofLines sandbox form (number + lines.length) rest) := by
  induction states generalizing number with
  | nil => rfl
  | @cons line script lines scripts states _ ih =>
      rw [List.cons_append, ofLines, readLine_eq_ok_iff.mpr states]
      simp only
      rw [ih, List.foldr_cons, List.length_cons, Nat.add_right_comm, Nat.add_assoc]

/-- Lines that all state scripts are as good as the scripts. -/
theorem ofLines_of_states (sandbox : Sandbox) (number : Nat)
    (states : List.Forall₂ (States form) lines scripts) :
    ofLines sandbox form number lines = ofScripts sandbox scripts := by
  have read := ofLines_append sandbox number states []
  rwa [List.append_nil] at read

/-- Rewritten scripts before a transcript: nothing of what they print or warn about is lost. -/
theorem foldr_cons (sandbox : Sandbox) (scripts : List Text) (later : Transcript) :
    scripts.foldr (cons sandbox) later =
      ⟨Command.lines (scripts.map sandbox.rewrite) ++ later.output,
        scripts.flatMap sandbox.warnings ++ later.warnings, later.failure⟩ := by
  induction scripts with
  | nil => rfl
  | cons script scripts ih =>
      rw [List.foldr_cons, ih]
      simp [cons, Command.lines]

/-- The outcome of rewriting scripts and doing nothing else. -/
def rewritten (sandbox : Sandbox) (scripts : List Text) (ending : Ending) : Outcome :=
  ⟨Command.lines (scripts.map sandbox.rewrite), scripts.flatMap sandbox.warnings, ending⟩

end Transcript

end RunLine
