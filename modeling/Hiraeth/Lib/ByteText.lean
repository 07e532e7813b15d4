import Mathlib.Data.List.Basic
import Mathlib.Data.Fintype.Basic

/-!
# Bytes written as text

Hexadecimal and percent encoding both write a sequence of bytes one code word
after another.  Both are injective for the same reason: the code word of the
first byte can be read off whatever follows it.

## Main definitions

* `ReadsOff` — a code whose first word is determined by the text
* `HexDigits` — sixteen distinct digits
* `hexEncode`, `percentEncode` — the two encodings

## Main results

* `ReadsOff.flatMap_injective` — such a code is injective on sequences
* `hexEncode_injective`, `percentEncode_injective`
* `not_mem_hexEncode`, `not_mem_percentEncode` — characters that never appear
-/

namespace ByteText

universe u v

/-! ### Codes -/

section Code

variable {α : Type u} {β : Type v}

/-- No code word is empty, and the first word of a text is determined by the
text. -/
structure ReadsOff (code : α → List β) : Prop where
  ne_nil : ∀ a, code a ≠ []
  first : ∀ {a b : α} {s t : List β}, code a ++ s = code b ++ t → a = b

/-- **A code that reads off is injective on sequences.** -/
theorem ReadsOff.flatMap_injective {code : α → List β} (reads : ReadsOff code) :
    Function.Injective fun word : List α => word.flatMap code := by
  intro left
  induction left with
  | nil =>
      intro right equal
      cases right with
      | nil => rfl
      | cons b right =>
          have empty : code b ++ right.flatMap code = [] := by
            simpa using equal.symm
          exact absurd (List.append_eq_nil_iff.mp empty).1 (reads.ne_nil b)
  | cons a left inductionHypothesis =>
      intro right equal
      cases right with
      | nil =>
          have empty : code a ++ left.flatMap code = [] := by
            simpa using equal
          exact absurd (List.append_eq_nil_iff.mp empty).1 (reads.ne_nil a)
      | cons b right =>
          have glued : code a ++ left.flatMap code = code b ++ right.flatMap code := by
            simpa using equal
          obtain rfl := reads.first glued
          rw [inductionHypothesis (List.append_cancel_left glued)]

end Code

/-! ### Hexadecimal -/

/-- Sixteen distinct digits. -/
structure HexDigits where
  digit : Fin 16 → Char
  injective : Function.Injective digit

/-- The digits `0` to `9` and `a` to `f`. -/
def lowerHex : HexDigits where
  digit := fun i => ['0', '1', '2', '3', '4', '5', '6', '7', '8', '9',
    'a', 'b', 'c', 'd', 'e', 'f'].get i
  injective := by decide

/-- The digits `0` to `9` and `A` to `F`. -/
def upperHex : HexDigits where
  digit := fun i => ['0', '1', '2', '3', '4', '5', '6', '7', '8', '9',
    'A', 'B', 'C', 'D', 'E', 'F'].get i
  injective := by decide

/-- The high four bits of a byte. -/
def highNibble (byte : UInt8) : Fin 16 :=
  ⟨byte.toNat / 16, by have := byte.toNat_lt; omega⟩

/-- The low four bits of a byte. -/
def lowNibble (byte : UInt8) : Fin 16 :=
  ⟨byte.toNat % 16, by omega⟩

/-- A byte is determined by its two halves. -/
theorem eq_of_nibbles {a b : UInt8} (high : highNibble a = highNibble b)
    (low : lowNibble a = lowNibble b) : a = b := by
  have highValue : a.toNat / 16 = b.toNat / 16 := congrArg Fin.val high
  have lowValue : a.toNat % 16 = b.toNat % 16 := congrArg Fin.val low
  apply UInt8.toNat_inj.mp
  omega

/-- The two digits of a byte, high half first. -/
def HexDigits.pair (digits : HexDigits) (byte : UInt8) : List Char :=
  [digits.digit (highNibble byte), digits.digit (lowNibble byte)]

/-- The digits of every byte in turn. -/
def hexEncode (digits : HexDigits) (bytes : List UInt8) : List Char :=
  bytes.flatMap digits.pair

theorem HexDigits.readsOff_pair (digits : HexDigits) : ReadsOff digits.pair where
  ne_nil := by simp [HexDigits.pair]
  first := by
    intro a b s t equal
    simp only [HexDigits.pair, List.cons_append, List.cons.injEq] at equal
    exact eq_of_nibbles (digits.injective equal.1) (digits.injective equal.2.1)

theorem hexEncode_injective (digits : HexDigits) :
    Function.Injective (hexEncode digits) :=
  digits.readsOff_pair.flatMap_injective

/-- A character that is not a digit never appears. -/
theorem not_mem_hexEncode {digits : HexDigits} {c : Char}
    (outside : ∀ i, digits.digit i ≠ c) (bytes : List UInt8) :
    c ∉ hexEncode digits bytes := by
  simp [hexEncode, HexDigits.pair, fun i => (outside i).symm]

/-! ### Percent encoding -/

/-- A byte read as the character of the same number. -/
def charOfByte (byte : UInt8) : Char :=
  Char.ofUInt8 byte

@[simp]
theorem toNat_charOfByte (byte : UInt8) : (charOfByte byte).toNat = byte.toNat :=
  rfl

theorem toUInt8_charOfByte (byte : UInt8) : (charOfByte byte).toUInt8 = byte := by
  apply UInt8.toNat_inj.mp
  have small : byte.toNat < 256 := byte.toNat_lt
  show (charOfByte byte).toNat % 256 = byte.toNat
  rw [toNat_charOfByte, Nat.mod_eq_of_lt small]

theorem charOfByte_injective : Function.Injective charOfByte :=
  Function.LeftInverse.injective toUInt8_charOfByte

/-- A byte as percent encoding writes it: itself when it is kept, and `%` with
two digits otherwise. -/
def percentByte (digits : HexDigits) (keep : UInt8 → Bool) (byte : UInt8) :
    List Char :=
  if keep byte then [charOfByte byte] else '%' :: digits.pair byte

/-- Percent encoding of a sequence of bytes. -/
def percentEncode (digits : HexDigits) (keep : UInt8 → Bool) (bytes : List UInt8) :
    List Char :=
  bytes.flatMap (percentByte digits keep)

section Percent

variable {digits : HexDigits} {keep : UInt8 → Bool}

/-- A kept byte is not written as a character that is dropped. -/
theorem charOfByte_ne_of_keep {byte : UInt8} {c : Char} (kept : keep byte = true)
    (dropped : keep c.toUInt8 = false) : charOfByte byte ≠ c := by
  rintro rfl
  rw [toUInt8_charOfByte, kept] at dropped
  exact Bool.noConfusion dropped

/-- As long as `%` itself is not kept, the first byte can be read off. -/
theorem readsOff_percentByte (escape : keep '%'.toUInt8 = false) :
    ReadsOff (percentByte digits keep) where
  ne_nil := by
    intro byte
    unfold percentByte
    split <;> simp
  first := by
    intro a b s t equal
    cases keepA : keep a <;> cases keepB : keep b
    · simp only [percentByte, keepA, keepB, Bool.false_eq_true, if_false,
        List.cons_append, List.cons.injEq, true_and] at equal
      exact digits.readsOff_pair.first equal
    · simp only [percentByte, keepA, keepB, Bool.false_eq_true, if_false, if_true,
        List.cons_append, List.cons.injEq] at equal
      exact absurd equal.1.symm (charOfByte_ne_of_keep keepB escape)
    · simp only [percentByte, keepA, keepB, Bool.false_eq_true, if_false, if_true,
        List.cons_append, List.cons.injEq] at equal
      exact absurd equal.1 (charOfByte_ne_of_keep keepA escape)
    · simp only [percentByte, keepA, keepB, if_true, List.cons_append,
        List.cons.injEq] at equal
      exact charOfByte_injective equal.1

/-- **Percent encoding is injective** when `%` itself is not kept. -/
theorem percentEncode_injective (escape : keep '%'.toUInt8 = false) :
    Function.Injective (percentEncode digits keep) :=
  (readsOff_percentByte escape).flatMap_injective

/-- A character that is neither kept, nor a digit, nor `%` never appears. -/
theorem not_mem_percentEncode {c : Char} (percent : c ≠ '%')
    (outside : ∀ i, digits.digit i ≠ c)
    (dropped : keep c.toUInt8 = false) (bytes : List UInt8) :
    c ∉ percentEncode digits keep bytes := by
  simp only [percentEncode, List.mem_flatMap, not_exists, not_and]
  intro byte _
  unfold percentByte
  split
  · rename_i kept
    simpa using (charOfByte_ne_of_keep kept dropped).symm
  · simp [HexDigits.pair, percent, fun i => (outside i).symm]

end Percent

end ByteText
