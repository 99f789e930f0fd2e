import Mathlib.Data.List.Forall2
import RunLine.Proofs.Transcript.Scripts

/-!
# Ways of feeding lines

Lines come as arguments, as plain input or as JSON.  Wherever a line can come in all three ways, it
makes no difference which is taken, how the lines of an input are ended, or which encoding of a
line is chosen.
-/

namespace RunLine.Transcript

variable {sandbox : Sandbox} {form : LineForm} {input : Bytes}
variable {lines encoded : List Text} {text : Text}

/-- A text that holds no newline and ends in no carriage return. -/
def OnLine (text : Text) : Prop := '\n' ∉ text ∧ text.getLast? ≠ some '\r'

instance (text : Text) : Decidable (OnLine text) :=
  inferInstanceAs (Decidable ('\n' ∉ text ∧ text.getLast? ≠ some '\r'))

theorem OnLine.encode (onLine : OnLine text) :
    10 ∉ Utf8.encode text ∧ (Utf8.encode text).getLast? ≠ some 13 := by
  constructor
  · intro member
    exact onLine.1 (Utf8.mem_of_mem_encode rfl (by decide) member)
  · intro last
    exact onLine.2 (Utf8.getLast?_eq_of_getLast?_encode rfl (by decide) last)

/-- Texts that fit on lines and state scripts are as good as the scripts, however the lines are
ended. -/
theorem ofInput_of_ended (sandbox : Sandbox) {texts : List Text}
    (states : List.Forall₂ (fun text script => States form (Utf8.encode text) script) texts lines)
    (onLine : ∀ text ∈ texts, OnLine text) (ended : Ended (texts.map Utf8.encode) input) :
    ofInput sandbox form input = ofScripts sandbox lines := by
  rw [ofInput, ended.inputLines_eq]
  · exact ofLines_of_states sandbox 1 (List.forall₂_map_left_iff.mpr states)
  · intro line member
    rcases List.mem_map.mp member with ⟨text, inTexts, rfl⟩
    exact (onLine text inTexts).encode

theorem onLine_of_encodes (encodes : List.Forall₂ Json.Encodes encoded lines) :
    ∀ text ∈ encoded, OnLine text := by
  induction encodes with
  | nil => simp
  | cons first _ ih =>
      intro text member
      cases member with
      | head => exact first.onLine
      | tail _ member => exact ih text member

/-- The ways of feeding lines agree: given as arguments, as plain input or as input of their JSON
encodings, of which the printer's is one, lines print the same and warn of the same. -/
theorem feedings_agree (sandbox : Sandbox) (nonempty : lines ≠ [])
    (onLine : ∀ line ∈ lines, OnLine line) (stdin : Bytes) :
    (∀ input, Ended (lines.map Utf8.encode) input →
        Command.transcript sandbox [] false input =
          Command.transcript sandbox lines false stdin) ∧
      (∀ encoded, List.Forall₂ Json.Encodes encoded lines →
        ∀ input, Ended (encoded.map Utf8.encode) input →
          Command.transcript sandbox [] true input =
            Command.transcript sandbox lines false stdin) ∧
      List.Forall₂ Json.Encodes (lines.map Json.quoted) lines := by
  have given : Command.transcript sandbox lines false stdin = ofScripts sandbox lines := by
    rw [Command.transcript, if_neg (by simpa using nonempty)]
  rw [given]
  refine ⟨?_, ?_, ?_⟩
  · intro input ended
    apply ofInput_of_ended sandbox _ onLine ended
    exact List.forall₂_same.mpr fun _ _ => .plain
  · intro encoded encodes input ended
    apply ofInput_of_ended sandbox _ (onLine_of_encodes encodes) ended
    exact encodes.imp fun _ _ encodes => .json encodes.spellsWhole
  · apply List.forall₂_map_left_iff.mpr
    exact List.forall₂_same.mpr fun line _ => Json.encodes_quoted line

/-- Lines with an empty one among them, a quoted span and a letter of two bytes. -/
def sampleLines : List Text := [Text.lit "app a.b", [], Text.lit "say \"é\\\""]

/-- The line ends are mixed, and the escapes are not those of the printer. -/
theorem feedings_agree_sample :
    sampleLines ≠ [] ∧
      (∀ line ∈ sampleLines, OnLine line) ∧
      Command.transcript Sandbox.sample [] false
          (Utf8.encode (Text.lit "app a.b\r\n\nsay \"é\\\"")) =
        Command.transcript Sandbox.sample sampleLines false [] ∧
      Command.transcript Sandbox.sample [] true
          (Utf8.encode (Text.lit "\"app \\u0061.b\"\n\"\"\r\n\"say \\\"\\u00e9\\\\\\\"\"\n")) =
        Command.transcript Sandbox.sample sampleLines false [] := by
  have nonempty : sampleLines ≠ [] := List.cons_ne_nil _ _
  have onLine : ∀ line ∈ sampleLines, OnLine line := by decide +kernel
  rcases feedings_agree Sandbox.sample nonempty onLine [] with ⟨plain, json, -⟩
  refine ⟨nonempty, onLine, ?_, ?_⟩
  · have input : Utf8.encode (Text.lit "app a.b\r\n\nsay \"é\\\"") =
        Utf8.encode (Text.lit "app a.b") ++ 13 :: 10 ::
          (Utf8.encode [] ++ 10 :: Utf8.encode (Text.lit "say \"é\\\"")) := by decide +kernel
    rw [input]
    exact plain _ (.returnNewline (.newline (.unended (by decide +kernel))))
  · have input :
        Utf8.encode (Text.lit "\"app \\u0061.b\"\n\"\"\r\n\"say \\\"\\u00e9\\\\\\\"\"\n") =
          Utf8.encode (Text.lit "\"app \\u0061.b\"") ++ 10 ::
            (Utf8.encode (Text.lit "\"\"") ++ 13 :: 10 ::
              (Utf8.encode (Text.lit "\"say \\\"\\u00e9\\\\\\\"\"") ++ 10 :: [])) := by
      decide +kernel
    rw [input]
    refine json
      [Text.lit "\"app \\u0061.b\"", Text.lit "\"\"", Text.lit "\"say \\\"\\u00e9\\\\\\\"\""]
      ?_ _ (.newline (.returnNewline (.newline .nothing)))
    have first : Json.readString (Text.lit "app \\u0061.b\"") = some (Text.lit "app a.b", []) := by
      decide +kernel
    have second : Json.readString (Text.lit "\"") = some ([], []) := by decide +kernel
    have third : Json.readString (Text.lit "say \\\"\\u00e9\\\\\\\"\"") =
        some (Text.lit "say \"é\\\"", []) := by decide +kernel
    exact .cons (Json.encodes_iff.mpr first)
      (.cons (Json.encodes_iff.mpr second) (.cons (Json.encodes_iff.mpr third) .nil))

end RunLine.Transcript
