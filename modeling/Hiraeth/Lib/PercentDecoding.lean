import Hiraeth.Lib.ByteText

/-!
# Percent decoding

A percent sign stands before the two digits of a byte; every other character stands for its own
bytes.

## Main definitions

* `hexValue` — the value of a digit of either case
* `percentDecode` — the bytes of a text

## Main results

* `percentDecode_percentEncode` — decoding undoes encoding
* `percentDecode_eq_self_iff` — a text is decoded to its own bytes when it has no percent signs
-/

namespace ByteText

/-- The value of a digit, of either case. -/
def hexValue (c : Char) : Option ℕ :=
  if 48 ≤ c.toNat ∧ c.toNat ≤ 57 then some (c.toNat - 48)
  else if 65 ≤ c.toNat ∧ c.toNat ≤ 70 then some (c.toNat - 55)
  else if 97 ≤ c.toNat ∧ c.toNat ≤ 102 then some (c.toNat - 87)
  else none

/-- The byte of two digits. -/
def escapedByte (high low : Char) : Option UInt8 :=
  (hexValue high).bind fun highValue =>
    (hexValue low).map fun lowValue => UInt8.ofNat (16 * highValue + lowValue)

/-- **Percent decoding.**  A percent sign without two digits behind it is an error. -/
def percentDecode : List Char → Option (List UInt8)
  | [] => some []
  | '%' :: high :: low :: rest =>
      (escapedByte high low).bind fun byte => (percentDecode rest).map (byte :: ·)
  | '%' :: _ => none
  | c :: rest => (percentDecode rest).map (String.utf8EncodeChar c ++ ·)

theorem percentDecode_cons {c : Char} (plain : c ≠ '%') (rest : List Char) :
    percentDecode (c :: rest) = (percentDecode rest).map (String.utf8EncodeChar c ++ ·) := by
  rw [percentDecode]
  · intro _ _ _ same
    exact absurd same plain
  · intro same
    exact absurd same plain

/-! ### Encoded bytes -/

theorem hexValue_upperHex (i : Fin 16) : hexValue (upperHex.digit i) = some i.val := by
  revert i
  decide

/-- The digits of a byte stand for it. -/
theorem escapedByte_pair (byte : UInt8) :
    escapedByte (upperHex.digit (highNibble byte)) (upperHex.digit (lowNibble byte)) =
      some byte := by
  have whole : 16 * (byte.toNat / 16) + byte.toNat % 16 = byte.toNat := Nat.div_add_mod _ _
  rw [escapedByte, hexValue_upperHex, hexValue_upperHex, Option.bind_some, Option.map_some]
  show some (UInt8.ofNat (16 * (byte.toNat / 16) + byte.toNat % 16)) = some byte
  rw [whole, UInt8.ofNat_toNat]

/-- An ASCII byte is its own encoding. -/
theorem utf8EncodeChar_charOfByte {byte : UInt8} (ascii : byte.toNat < 128) :
    String.utf8EncodeChar (charOfByte byte) = [byte] := by
  have value : (charOfByte byte).val.toNat = byte.toNat := toNat_charOfByte byte
  unfold String.utf8EncodeChar
  dsimp only
  rw [value, if_pos (Nat.le_of_lt_succ ascii), UInt8.ofNat_toNat]

/-- **Decoding undoes encoding** when ASCII bytes other than `%` are kept. -/
theorem percentDecode_percentEncode {keep : UInt8 → Bool} (escape : keep '%'.toUInt8 = false)
    (ascii : ∀ byte, keep byte = true → byte.toNat < 128) (bytes : List UInt8) :
    percentDecode (percentEncode upperHex keep bytes) = some bytes := by
  induction bytes with
  | nil => rfl
  | cons byte bytes inductionHypothesis =>
      show percentDecode (percentByte upperHex keep byte ++ percentEncode upperHex keep bytes) = _
      unfold percentByte
      by_cases kept : keep byte = true
      · rw [if_pos kept, List.singleton_append,
          percentDecode_cons (charOfByte_ne_of_keep kept escape), inductionHypothesis,
          utf8EncodeChar_charOfByte (ascii byte kept)]
        rfl
      · rw [if_neg kept]
        show percentDecode ('%' :: upperHex.digit (highNibble byte) ::
          upperHex.digit (lowNibble byte) :: percentEncode upperHex keep bytes) = _
        rw [percentDecode, escapedByte_pair, inductionHypothesis]
        rfl

/-! ### Texts that are decoded to themselves -/

theorem length_utf8EncodeChar_pos (c : Char) : 0 < (String.utf8EncodeChar c).length := by
  rw [String.length_utf8EncodeChar]
  exact c.utf8Size_pos

/-- **Decoding never adds bytes**, and an escaped byte is shorter than its escape. -/
theorem length_percentDecode {text : List Char} {bytes : List UInt8}
    (decoded : percentDecode text = some bytes) :
    bytes.length ≤ (text.flatMap String.utf8EncodeChar).length ∧
      ('%' ∈ text → bytes.length < (text.flatMap String.utf8EncodeChar).length) := by
  induction text using percentDecode.induct generalizing bytes with
  | case1 =>
      obtain rfl := Option.some.inj decoded
      exact ⟨Nat.le_refl _, fun isPercent => absurd isPercent List.not_mem_nil⟩
  | case2 high low rest inductionHypothesis =>
      rw [percentDecode, Option.bind_eq_some_iff] at decoded
      obtain ⟨byte, -, tail⟩ := decoded
      obtain ⟨decodedRest, decodes, rfl⟩ := Option.map_eq_some_iff.mp tail
      have shorter := (inductionHypothesis decodes).1
      have first := length_utf8EncodeChar_pos '%'
      have second := length_utf8EncodeChar_pos high
      simp only [List.flatMap_cons, List.length_append, List.length_cons]
      constructor
      · omega
      · intro
        omega
  | case3 rest short =>
      rw [percentDecode] at decoded
      · cases decoded
      · exact short
  | case4 c rest notEscape notPercent inductionHypothesis =>
      rw [percentDecode_cons notPercent] at decoded
      obtain ⟨decodedRest, decodes, rfl⟩ := Option.map_eq_some_iff.mp decoded
      obtain ⟨shorter, strictly⟩ := inductionHypothesis decodes
      simp only [List.flatMap_cons, List.length_append, Nat.add_le_add_iff_left,
        Nat.add_lt_add_iff_left]
      refine ⟨shorter, fun isPercent => strictly ?_⟩
      exact (List.mem_cons.mp isPercent).resolve_left fun same => notPercent same.symm

/-- **A text is decoded to its own bytes exactly when it has no percent signs.** -/
theorem percentDecode_eq_self_iff {text : List Char} :
    percentDecode text = some (text.flatMap String.utf8EncodeChar) ↔ '%' ∉ text := by
  constructor
  · intro same isPercent
    exact absurd ((length_percentDecode same).2 isPercent) (Nat.lt_irrefl _)
  · intro plain
    induction text with
    | nil => rfl
    | cons c text inductionHypothesis =>
        obtain ⟨notPercent, plainRest⟩ := not_or.mp (mt List.mem_cons.mpr plain)
        rw [percentDecode_cons (Ne.symm notPercent), inductionHypothesis plainRest]
        rfl

end ByteText
