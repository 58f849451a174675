import LanguageBridge.Proofs.Text.Decoding
import LanguageBridge.Uri.Percent

set_option autoImplicit false

/-! # Percent encoding is undone by decoding

What `Percent.encode` writes is read back by `Percent.decode`, provided that only ASCII characters
other than `%` stay plain (`IsSafe`). What it writes is ASCII.
-/

namespace LanguageBridge.Percent

/-- Only ASCII characters stay plain, and `%` does not. -/
def IsSafe (plain : UInt8 → Bool) : Prop :=
  ∀ b, plain b = true → b.toNat < 0x80 ∧ b.toNat ≠ '%'.toNat

theorem isSafe_plainInComponent : IsSafe plainInComponent := by
  intro b hb
  simp only [plainInComponent, plainInPath, plainInFragment, isPrintable, isAmong, List.any_cons,
    Bool.and_eq_true, decide_eq_true_eq, Bool.not_eq_true', Bool.or_eq_false_iff,
    decide_eq_false_iff_not, UInt8.le_iff_toNat_le] at hb
  obtain ⟨⟨⟨⟨-, hhigh⟩, -⟩, -⟩, -, hpercent, -⟩ := hb
  exact ⟨Nat.lt_succ_of_le (Nat.le_succ_of_le hhigh), Ne.symm hpercent⟩

/-! ## Digits -/

theorem hexValue?_upperDigit {n : Nat} (h : n < 16) : Text.hexValue? (upperDigit n) = some n := by
  have hall : ∀ n < 16, Text.hexValue? (upperDigit n) = some n := by decide
  exact hall n h

theorem toNat_upperDigit_lt {n : Nat} (h : n < 16) : (upperDigit n).toNat < 0x80 := by
  have hall : ∀ n < 16, (upperDigit n).toNat < 0x80 := by decide
  exact hall n h

theorem toNat_ofNat {n : Nat} (h : n < 0x80) : (Char.ofNat n).toNat = n :=
  Text.toNat_ofNat_of_valid (Or.inl (by omega))

/-! ## Back and forth -/

theorem decode_nil : decode [] = [] := by
  rw [decode, decodeFrom]

/-- An ASCII character other than `%` is read as its byte. -/
theorem decode_plain {n : Nat} (h : n < 0x80) (hne : n ≠ '%'.toNat) (rest : List Char) :
    decode (Char.ofNat n :: rest) = UInt8.ofNat n :: decode rest := by
  have hchar : Char.ofNat n ≠ '%' := fun heq => hne (by rw [← toNat_ofNat h, heq])
  rw [decode, decodeFrom, decodeFrom.start, if_neg hchar, Text.utf8EncodeChar_one h]
  rfl

/-- An escape is read as the byte that it was written for. -/
theorem decode_escape (b : UInt8) (rest : List Char) :
    decode (escape b ++ rest) = b :: decode rest := by
  have hb := b.toNat_lt
  have hhigh : b.toNat / 16 < 16 := by omega
  have hlow : b.toNat % 16 < 16 := by omega
  have hsum : b.toNat / 16 * 16 + b.toNat % 16 = b.toNat := by omega
  simp only [escape, decode, List.cons_append, List.nil_append, decodeFrom, decodeFrom.start,
    if_true, hexValue?_upperDigit hhigh, hexValue?_upperDigit hlow, hsum, UInt8.ofNat_toNat]

/-- **Decoding undoes encoding**, whatever bytes are written. -/
theorem decode_encode_append {plain : UInt8 → Bool} (h : IsSafe plain) (bytes : Bytes)
    (rest : List Char) : decode (encode plain bytes ++ rest) = bytes ++ decode rest := by
  induction bytes with
  | nil => rfl
  | cons b more ih =>
      have hone : decode ((if plain b then [Char.ofNat b.toNat] else escape b)
          ++ (encode plain more ++ rest)) = b :: decode (encode plain more ++ rest) := by
        split
        case isTrue hplain =>
          obtain ⟨hlt, hne⟩ := h b hplain
          rw [List.singleton_append, decode_plain hlt hne, UInt8.ofNat_toNat]
        case isFalse => exact decode_escape b _
      rw [encode, List.flatMap_cons, List.append_assoc, ← encode, hone, ih, List.cons_append]

/-- What is written is ASCII. -/
theorem toNat_lt_of_mem_encode {plain : UInt8 → Bool} (h : IsSafe plain) {bytes : Bytes} {c : Char}
    (hc : c ∈ encode plain bytes) : c.toNat < 0x80 := by
  obtain ⟨b, -, hc⟩ := List.mem_flatMap.mp hc
  have hb := b.toNat_lt
  split at hc
  case isTrue hplain =>
    obtain ⟨hlt, -⟩ := h b hplain
    rw [List.mem_singleton.mp hc, toNat_ofNat hlt]
    exact hlt
  case isFalse =>
    rw [escape, List.mem_cons, List.mem_cons, List.mem_singleton] at hc
    rcases hc with rfl | rfl | rfl
    · decide
    · exact toNat_upperDigit_lt (by omega)
    · exact toNat_upperDigit_lt (by omega)

end LanguageBridge.Percent
