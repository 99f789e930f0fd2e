import RunLine.Pipeline
import RunLine.Proofs.Text.Substitution

/-!
# The null device is gone

Renaming the null device is the last step of rewriting, so it reaches everything: tokens, spans that
were put back, and what was put before tokens.  One pass from the left need not be enough for
arbitrary names, because a replacement can complete the name together with its neighbours.  Where
neither name holds the first letter of the other, one pass leaves none.
-/

namespace RunLine

/-- The null device and its name in the sandbox are not empty, and each starts with a letter that
the other does not hold. -/
structure Conventions.NamesApart (conventions : Conventions) : Prop where
  device : ∃ first, conventions.nullDevice.head? = some first ∧
    first ∉ conventions.nullReplacement
  replacement : ∃ first, conventions.nullReplacement.head? = some first ∧
    first ∉ conventions.nullDevice

namespace Conventions

variable {conventions : Conventions}

theorem NamesApart.nullDevice_ne_nil (apart : conventions.NamesApart) :
    conventions.nullDevice ≠ [] := by
  rcases apart.device with ⟨first, starts, -⟩
  intro empty
  simp [empty] at starts

theorem NamesApart.nullReplacement_ne_nil (apart : conventions.NamesApart) :
    conventions.nullReplacement ≠ [] := by
  rcases apart.replacement with ⟨first, starts, -⟩
  intro empty
  simp [empty] at starts

/-- The names that hold by default are apart. -/
theorem namesApart_default : Layer.empty.settings.conventions.NamesApart :=
  ⟨⟨'/', rfl, by decide⟩, ⟨'@', rfl, by decide⟩⟩

end Conventions

namespace Sandbox

variable {conventions : Conventions} {text : Text} {letter : Char}

/-! ## Renaming -/

theorem renameNull_of_empty (unset : conventions.nullDevice = []) (text : Text) :
    renameNull conventions text = text := by
  rw [renameNull, unset]
  rfl

theorem renameNull_eq_replace (proper : conventions.nullDevice ≠ []) (text : Text) :
    renameNull conventions text =
      Text.replace conventions.nullDevice conventions.nullReplacement text := by
  rw [renameNull, if_neg (by simpa using proper)]

/-- Renaming does not reach across a letter that the null device does not hold. -/
theorem renameNull_append_cons (conventions : Conventions)
    (absent : letter ∉ conventions.nullDevice) (left right : Text) :
    renameNull conventions (left ++ letter :: right) =
      renameNull conventions left ++ letter :: renameNull conventions right := by
  by_cases unset : conventions.nullDevice = []
  · simp only [renameNull_of_empty unset]
  · simp only [renameNull_eq_replace unset]
    exact Text.replace_append_cons unset _ absent left right

/-- Renaming brings in nothing but the name. -/
theorem mem_renameNull (member : letter ∈ renameNull conventions text) :
    letter ∈ conventions.nullReplacement ∨ letter ∈ text := by
  by_cases unset : conventions.nullDevice = []
  · rw [renameNull_of_empty unset] at member
    exact Or.inr member
  · rw [renameNull_eq_replace unset] at member
    exact Text.mem_replace unset member

/-- No null device is left. -/
theorem not_infix_renameNull (apart : conventions.NamesApart) (text : Text) :
    ¬ conventions.nullDevice <:+: renameNull conventions text := by
  rcases apart.device with ⟨first, starts, absent⟩
  rcases apart.replacement with ⟨first', starts', absent'⟩
  rw [renameNull_eq_replace apart.nullDevice_ne_nil]
  exact Text.not_infix_replace starts starts' absent absent' text

/-- Renaming once is enough. -/
theorem renameNull_renameNull (apart : conventions.NamesApart) (text : Text) :
    renameNull conventions (renameNull conventions text) = renameNull conventions text := by
  rw [renameNull_eq_replace apart.nullDevice_ne_nil (renameNull conventions text)]
  exact Text.replace_of_not_infix apart.nullDevice_ne_nil _ (not_infix_renameNull apart text)

/-! ## Rewritten lines -/

/-- No null device survives in a rewritten line, wherever it came from, if its two names are apart,
as they are by default: the line with its quotes in place is cut at null devices, and the pieces are
joined by the other name. -/
theorem null_device_gone :
    Layer.empty.settings.conventions.NamesApart ∧
      ∀ (sandbox : Sandbox) (script : Text), sandbox.conventions.NamesApart →
        ¬ sandbox.conventions.nullDevice <:+: sandbox.rewrite script ∧
          ∃ pieces, sandbox.rewriteQuoted script =
              sandbox.conventions.nullDevice.intercalate pieces ∧
            sandbox.rewrite script = sandbox.conventions.nullReplacement.intercalate pieces := by
  refine ⟨Conventions.namesApart_default, ?_⟩
  intro sandbox script apart
  constructor
  · exact not_infix_renameNull apart (sandbox.rewriteQuoted script)
  · rcases Text.exists_pieces apart.nullDevice_ne_nil sandbox.conventions.nullReplacement
      (sandbox.rewriteQuoted script) with ⟨pieces, -, -, cut, joined⟩
    refine ⟨pieces, cut, ?_⟩
    rw [rewrite, renameNull_eq_replace apart.nullDevice_ne_nil, joined]

/-- A sandbox whose launcher holds the null device and whose marker is the front of it. -/
def sampleAtDevice : Sandbox where
  conventions := ⟨Text.lit "run</dev/null", Text.lit "/dev", Text.lit "/dev/null", Text.lit "@null"⟩
  classifier head := .ok (if head = Text.lit "app" then .sandboxed else .host)
  namesFile token := token = Text.lit "/null"

/-- Null devices at the head of a command, in a span, in the launcher, made of the marker and a
token, and behind a redirection. -/
theorem null_device_gone_sample :
    sampleAtDevice.conventions.NamesApart ∧
      ¬ sampleAtDevice.conventions.nullDevice <:+:
        sampleAtDevice.rewrite (Text.lit "/dev/null \"| /dev/null\"|app /null > /dev/null") ∧
      sampleAtDevice.rewrite (Text.lit "/dev/null \"| /dev/null\"|app /null > /dev/null") =
        Text.lit "@null \"| @null\"|run<@null app @null > @null" := by
  have apart : sampleAtDevice.conventions.NamesApart :=
    ⟨⟨'/', rfl, by decide⟩, ⟨'@', rfl, by decide⟩⟩
  exact ⟨apart, (null_device_gone.2 sampleAtDevice _ apart).1, by decide +kernel⟩

end Sandbox

end RunLine
