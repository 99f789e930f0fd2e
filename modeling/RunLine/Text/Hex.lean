import RunLine.Text
/-!
# Hexadecimal

Two lower-case digits a byte, the high half first.
-/

namespace RunLine.Hex

/-- The two digits of a byte. -/
def ofByte (byte : UInt8) : Text :=
  [Nat.digitChar (byte.toNat / 16), Nat.digitChar (byte.toNat % 16)]

/-- The digits of bytes in order. -/
def encode (bytes : Bytes) : Text := bytes.flatMap ofByte

@[simp] theorem length_encode (bytes : Bytes) : (encode bytes).length = 2 * bytes.length := by
  induction bytes with
  | nil => rfl
  | cons byte rest ih =>
      simp only [encode, List.flatMap_cons, List.length_append, List.length_cons] at ih ⊢
      simp only [ofByte, List.length_cons, List.length_nil]
      omega

/-- Every letter written is a digit. -/
theorem isSome_digitValue?_of_mem_encode {bytes : Bytes} {letter : Char}
    (member : letter ∈ encode bytes) : (Text.digitValue? letter).isSome := by
  have digits : ∀ value < 16, (Text.digitValue? (Nat.digitChar value)).isSome := by decide
  obtain ⟨byte, _, inByte⟩ := List.mem_flatMap.mp member
  have below : byte.toNat < 256 := byte.toNat_lt
  simp only [ofByte, List.mem_cons, List.not_mem_nil, or_false] at inByte
  rcases inByte with rfl | rfl
  · exact digits _ (by omega)
  · exact digits _ (by omega)

end RunLine.Hex
