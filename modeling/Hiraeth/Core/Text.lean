import Hiraeth.Lib.Separated
import Mathlib.Data.Char
import Mathlib.Data.Int.Notation
import Mathlib.Data.List.Basic
import Mathlib.Data.List.Lex
import Mathlib.Order.Lattice

/-!
# Text and bytes

The program's strings are modelled as sequences of Unicode scalar values, and
its byte strings as sequences of bytes.  The functions below are the string
operations the services use, under the names the source calls them by.

## Main definitions

* `Text`, `Bytes` — strings and byte strings
* `Text.utf8`, `fromUtf8` — the bytes of a string, and the string of some bytes
* `splitOnce`, `stripPrefix`, `stripSuffix`, `trim`, `trimMatches`,
  `splitWhitespace`, `toAsciiLowercase` — string operations

## Main results

* `Text.utf8_injective` — a string is determined by its bytes
* `fromUtf8_eq_some` — the bytes that are text are those of some string
* `not_mem_of_mem_splitWhitespace` — words contain no whitespace
-/

namespace Hiraeth

/-- A string, as the sequence of its Unicode scalar values. -/
abbrev Text := List Char

/-- A byte string. -/
abbrev Bytes := List UInt8

instance : Coe String Text := ⟨String.toList⟩

/-- A point of time in nanoseconds since the Unix epoch, UTC. -/
abbrev Time := ℤ

/-! ### Encoding -/

/-- The UTF-8 bytes of a string. -/
def Text.utf8 (text : Text) : Bytes :=
  text.flatMap String.utf8EncodeChar

@[simp]
theorem utf8_nil : Text.utf8 [] = [] := rfl

@[simp]
theorem utf8_cons (c : Char) (text : Text) :
    Text.utf8 (c :: text) = String.utf8EncodeChar c ++ text.utf8 := rfl

@[simp]
theorem utf8_append (left right : Text) :
    Text.utf8 (left ++ right) = left.utf8 ++ right.utf8 :=
  List.flatMap_append

/-- An ASCII character is a single byte. -/
theorem utf8EncodeChar_ascii {c : Char} (ascii : c.toNat < 128) :
    String.utf8EncodeChar c = [c.toUInt8] := by
  have small : c.toNat ≤ 127 := Nat.le_of_lt_succ ascii
  have byte : UInt8.ofNat c.toNat = c.toUInt8 := rfl
  simp [String.utf8EncodeChar, small, byte]

/-- A byte below 128 of an encoded character is that character. -/
theorem toNat_of_mem_utf8EncodeChar {c : Char} {byte : UInt8}
    (member : byte ∈ String.utf8EncodeChar c) (ascii : byte.toNat < 128) :
    c.toNat = byte.toNat := by
  have same : c.toNat = c.val.toNat := rfl
  have bound : c.val.toNat < 1114112 := by
    rcases c.valid with below | above
    · exact Nat.lt_trans below (by decide)
    · exact above.2
  unfold String.utf8EncodeChar at member
  dsimp only at member
  split at member
  · simp only [List.mem_singleton] at member
    subst member
    simp only [UInt8.toNat_ofNat'] at ascii ⊢
    omega
  -- every byte of a longer encoding has its top bit set
  · exfalso
    split at member
    · simp only [List.mem_cons, List.not_mem_nil, or_false] at member
      rcases member with rfl | rfl <;> simp only [UInt8.toNat_ofNat'] at ascii <;> omega
    · split at member
      · simp only [List.mem_cons, List.not_mem_nil, or_false] at member
        rcases member with rfl | rfl | rfl <;> simp only [UInt8.toNat_ofNat'] at ascii <;> omega
      · simp only [List.mem_cons, List.not_mem_nil, or_false] at member
        rcases member with rfl | rfl | rfl | rfl <;>
          simp only [UInt8.toNat_ofNat'] at ascii <;> omega

/-- An ASCII character that does not occur has no byte either. -/
theorem toUInt8_not_mem_utf8 {c : Char} (ascii : c.toNat < 128) {text : Text}
    (absent : c ∉ text) : c.toUInt8 ∉ text.utf8 := by
  intro member
  obtain ⟨d, occurs, encoded⟩ := List.mem_flatMap.mp member
  have byte : c.toUInt8.toNat = c.toNat := by
    show c.val.toNat % 256 = c.val.toNat
    have same : c.toNat = c.val.toNat := rfl
    omega
  have equal : d.toNat = c.toNat := by
    rw [toNat_of_mem_utf8EncodeChar encoded (by omega), byte]
  exact absent (Char.toNat_inj.mp equal ▸ occurs)

/-- **A string is determined by its bytes.** -/
theorem Text.utf8_injective : Function.Injective Text.utf8 := by
  intro left right equal
  have encoded : left.utf8Encode = right.utf8Encode :=
    congrArg List.toByteArray equal
  have decoded := List.utf8Decode?_utf8Encode (l := left)
  rw [encoded, List.utf8Decode?_utf8Encode] at decoded
  simpa using decoded.symm

/-- `str::from_utf8`. -/
def fromUtf8 (bytes : Bytes) : Option Text :=
  bytes.toByteArray.utf8Decode?.map Array.toList

/-- **Decoding undoes encoding, and succeeds nowhere else.** -/
theorem fromUtf8_eq_some {bytes : Bytes} {text : Text} :
    fromUtf8 bytes = some text ↔ bytes = text.utf8 := by
  unfold fromUtf8
  constructor
  · intro decodes
    obtain ⟨characters, decoded, rfl⟩ := Option.map_eq_some_iff.mp decodes
    have encoded : characters.toList.utf8Encode = bytes.toByteArray := by
      have defined : bytes.toByteArray.utf8Decode?.isSome := by rw [decoded]; rfl
      simpa [decoded] using ByteArray.utf8Encode_get_utf8Decode? (h := defined)
    exact (List.toByteArray_inj.mp encoded).symm
  · rintro rfl
    show (List.utf8Encode text).utf8Decode?.map Array.toList = some text
    rw [List.utf8Decode?_utf8Encode]
    simp

/-! ### Splitting -/

/-- `str::split_once`: the parts before and after the first `separator`. -/
def splitOnce (separator : Char) (text : Text) : Option (Text × Text) :=
  Separated.splitFirst separator text

/-- `str::strip_prefix`: what follows `lead`, if the text starts with it. -/
def stripPrefix : Text → Text → Option Text
  | [], text => some text
  | _ :: _, [] => none
  | c :: lead, d :: text => if c = d then stripPrefix lead text else none

/-- Stripping succeeds exactly on the texts that start with the prefix. -/
theorem stripPrefix_eq_some {lead text rest : Text} :
    stripPrefix lead text = some rest ↔ text = lead ++ rest := by
  induction lead generalizing text with
  | nil => simp [stripPrefix]
  | cons c lead inductionHypothesis =>
      cases text with
      | nil => simp [stripPrefix]
      | cons d text =>
          by_cases equal : c = d
          · subst equal
            simp [stripPrefix, inductionHypothesis]
          · have swapped : d ≠ c := fun h => equal h.symm
            simp [stripPrefix, equal, swapped]

/-- `str::strip_suffix`. -/
def stripSuffix (tail text : Text) : Option Text :=
  (stripPrefix tail.reverse text.reverse).map List.reverse

/-- Stripping succeeds exactly on the texts that end with the suffix. -/
theorem stripSuffix_eq_some {tail text rest : Text} :
    stripSuffix tail text = some rest ↔ text = rest ++ tail := by
  simp only [stripSuffix, Option.map_eq_some_iff, stripPrefix_eq_some]
  constructor
  · rintro ⟨reversed, split, rfl⟩
    rw [← List.reverse_inj, split, List.reverse_append, List.reverse_reverse]
  · rintro rfl
    exact ⟨rest.reverse, List.reverse_append, List.reverse_reverse rest⟩

/-! ### Numbers -/

/-- The value of decimal digits. -/
def digitsValue (digits : Text) : ℕ :=
  digits.foldl (fun value c => value * 10 + (c.toNat - 48)) 0

/-- The number that digits denote, if there are digits only. -/
def parseDigits (digits : Text) : Option ℕ :=
  if digits ≠ [] ∧ digits.all Char.isDigit then some (digitsValue digits) else none

/-- `str::parse::<i64>`: an optional sign, digits, and a value in range. -/
def parseI64 (text : Text) : Option ℤ :=
  let value : Option ℤ :=
    match text with
    | '-' :: digits => (parseDigits digits).map fun value => -(value : ℤ)
    | '+' :: digits => (parseDigits digits).map fun value => (value : ℤ)
    | digits => (parseDigits digits).map fun value => (value : ℤ)
  value.filter fun value => -9223372036854775808 ≤ value ∧ value ≤ 9223372036854775807

/-- The digits that a natural number is written with. -/
theorem toString_digits (value : ℕ) :
    (toString value).toList = Nat.toDigits 10 value := Nat.toList_repr

theorem digitsValue_eq (digits : Text) : digitsValue digits = Nat.ofDigitChars 10 digits 0 := by
  rw [digitsValue, Nat.ofDigitChars_eq_foldl]
  congr 1
  funext value c
  rw [Nat.mul_comm]
  rfl

/-- **Reading undoes writing**, for natural numbers. -/
theorem parseDigits_toString (value : ℕ) : parseDigits (toString value).toList = some value := by
  have isDigits : (Nat.toDigits 10 value).all Char.isDigit = true :=
    List.all_eq_true.mpr fun c member =>
      Nat.isDigit_of_mem_toDigits (by decide) (by decide) member
  rw [toString_digits, parseDigits, if_pos ⟨Nat.toDigits_ne_nil, isDigits⟩, digitsValue_eq,
    Nat.ofDigitChars_ten_toDigits]

/-- **Reading undoes writing**, for an `i64` that is not negative. -/
theorem parseI64_toString {value : ℤ} (low : 0 ≤ value) (high : value ≤ 9223372036854775807) :
    parseI64 (toString value).toList = some value := by
  obtain ⟨number, rfl⟩ := Int.eq_ofNat_of_zero_le low
  have written : (toString (number : ℤ)).toList = (toString number).toList := rfl
  have inRange : decide (-9223372036854775808 ≤ (number : ℤ) ∧
      (number : ℤ) ≤ 9223372036854775807) = true :=
    decide_eq_true ⟨by omega, high⟩
  have noSign : ∀ c ∈ (toString number).toList, c.isDigit = true := by
    intro c member
    rw [toString_digits] at member
    exact Nat.isDigit_of_mem_toDigits (by decide) (by decide) member
  have reads := parseDigits_toString number
  rw [written]
  unfold parseI64
  -- the first character is a digit, and no sign
  split
  · rename_i digits split
    exact absurd (noSign '-' (split ▸ List.mem_cons_self)) (by decide)
  · rename_i digits split
    exact absurd (noSign '+' (split ▸ List.mem_cons_self)) (by decide)
  · rw [reads]
    exact Option.filter_some_pos inRange

/-- `str::parse::<usize>`: a minus sign is no digit. -/
def parseUsize (text : Text) : Option ℕ :=
  let value :=
    match text with
    | '+' :: digits => parseDigits digits
    | digits => parseDigits digits
  value.filter fun value => value ≤ 18446744073709551615

/-! ### Trimming and words -/

/-- `char::is_whitespace`: the Unicode property `White_Space`. -/
def isWhitespace (c : Char) : Bool :=
  (9 ≤ c.toNat && c.toNat ≤ 13) || c.toNat = 32 || c.toNat = 0x85 || c.toNat = 0xA0 ||
    c.toNat = 0x1680 || (0x2000 ≤ c.toNat && c.toNat ≤ 0x200A) || c.toNat = 0x2028 ||
    c.toNat = 0x2029 || c.toNat = 0x202F || c.toNat = 0x205F || c.toNat = 0x3000

/-- Drop the characters that satisfy `drop` at both ends. -/
def trimBy (drop : Char → Bool) (text : Text) : Text :=
  ((text.dropWhile drop).reverse.dropWhile drop).reverse

/-- `str::trim`. -/
def trim (text : Text) : Text :=
  trimBy isWhitespace text

/-- `str::trim_matches` with a single character. -/
def trimMatches (c : Char) (text : Text) : Text :=
  trimBy (· = c) text

/-- `str::split_whitespace`: the nonempty pieces between whitespace. -/
def splitWhitespace (text : Text) : List Text :=
  (text.splitOnP isWhitespace).filter (· ≠ [])

/-- `str::to_ascii_lowercase`. -/
def toAsciiLowercase (text : Text) : Text :=
  text.map Char.toLower

/-- What a capital is moved to. -/
theorem val_toLower {c : Char} (capital : c.val ≥ 'A'.val ∧ c.val ≤ 'Z'.val) :
    c.toLower.val = c.val + ('a'.val - 'A'.val) :=
  congrArg Char.val (dif_pos capital)

theorem toLower_of_not_capital {c : Char} (other : ¬ (c.val ≥ 'A'.val ∧ c.val ≤ 'Z'.val)) :
    c.toLower = c :=
  dif_neg other

/-- Only capitals are moved, and they become letters. -/
theorem toLower_cases (c : Char) :
    c.toLower = c ∨ (97 ≤ c.toLower.toNat ∧ c.toLower.toNat ≤ 122) := by
  by_cases upper : c.val ≥ 'A'.val ∧ c.val ≤ 'Z'.val
  · right
    have low : 65 ≤ c.val.toNat := UInt32.le_iff_toNat_le.mp upper.1
    have high : c.val.toNat ≤ 90 := UInt32.le_iff_toNat_le.mp upper.2
    have moved : (c.val + ('a'.val - 'A'.val)).toNat = c.val.toNat + 32 := by
      rw [UInt32.toNat_add]
      show (c.val.toNat + 32) % 4294967296 = c.val.toNat + 32
      omega
    show 97 ≤ c.toLower.val.toNat ∧ c.toLower.val.toNat ≤ 122
    rw [val_toLower upper, moved]
    omega
  · exact .inl (toLower_of_not_capital upper)

theorem toLower_of_le {c : Char} (beyond : 97 ≤ c.toNat) : c.toLower = c := by
  refine toLower_of_not_capital fun upper => ?_
  have high : c.toNat ≤ 90 := UInt32.le_iff_toNat_le.mp upper.2
  omega

@[simp]
theorem toAsciiLowercase_toAsciiLowercase (text : Text) :
    toAsciiLowercase (toAsciiLowercase text) = toAsciiLowercase text := by
  rw [toAsciiLowercase, toAsciiLowercase, List.map_map]
  apply List.map_congr_left
  intro c _
  rcases toLower_cases c with same | ⟨low, -⟩
  · rw [Function.comp_apply, same, same]
  · exact toLower_of_le low

/-- Lowering brings in no character that is not a letter. -/
theorem not_mem_toAsciiLowercase {c : Char} {text : Text} (absent : c ∉ text)
    (small : c.toNat < 97) : c ∉ toAsciiLowercase text := by
  intro member
  obtain ⟨d, original, lowered⟩ := List.mem_map.mp member
  rcases toLower_cases d with same | ⟨low, -⟩
  · rw [same] at lowered
    exact absent (lowered ▸ original)
  · rw [lowered] at low
    omega

/-- No piece of a split contains a character it splits at. -/
theorem not_mem_of_mem_splitOnP {cut : Char → Bool} {text piece : Text}
    (member : piece ∈ text.splitOnP cut) {c : Char} (splits : cut c) :
    c ∉ piece := by
  induction text generalizing piece with
  | nil =>
      have empty : piece = [] := by simpa using member
      simp [empty]
  | cons d text inductionHypothesis =>
      rw [List.splitOnP_cons_eq_if_modifyHead] at member
      cases cutD : cut d with
      | true =>
          rw [if_pos cutD, List.mem_cons] at member
          rcases member with rfl | later
          · simp
          · exact inductionHypothesis later
      | false =>
          rw [if_neg (by simp [cutD])] at member
          cases pieces : text.splitOnP cut with
          | nil => exact absurd pieces (List.splitOnP_ne_nil cut text)
          | cons head tail =>
              rw [pieces, List.modifyHead_cons, List.mem_cons] at member
              rcases member with rfl | later
              · have headFree : c ∉ head :=
                  inductionHypothesis (by rw [pieces]; exact List.mem_cons_self)
                have different : c ≠ d := by
                  rintro rfl
                  rw [cutD] at splits
                  exact Bool.false_ne_true splits
                simp [different, headFree]
              · exact inductionHypothesis (by rw [pieces]; exact List.mem_cons_of_mem _ later)

/-- The characters of a piece are characters of the text. -/
theorem mem_of_mem_splitOnP {cut : Char → Bool} {text piece : Text}
    (member : piece ∈ text.splitOnP cut) {c : Char} (own : c ∈ piece) : c ∈ text := by
  induction text generalizing piece with
  | nil =>
      have empty : piece = [] := by simpa using member
      simp [empty] at own
  | cons d text inductionHypothesis =>
      rw [List.splitOnP_cons_eq_if_modifyHead] at member
      split_ifs at member with cutD
      · rcases List.mem_cons.mp member with rfl | later
        · exact absurd own List.not_mem_nil
        · exact List.mem_cons_of_mem d (inductionHypothesis later own)
      · obtain ⟨head, tail, pieces⟩ := List.exists_cons_of_ne_nil (List.splitOnP_ne_nil cut text)
        rw [pieces] at member inductionHypothesis
        rcases List.mem_cons.mp member with rfl | later
        · rcases List.mem_cons.mp own with rfl | ofHead
          · exact List.mem_cons_self
          · exact List.mem_cons_of_mem d (inductionHypothesis List.mem_cons_self ofHead)
        · exact List.mem_cons_of_mem d (inductionHypothesis (List.mem_cons_of_mem _ later) own)

/-- Words contain no whitespace. -/
theorem not_mem_of_mem_splitWhitespace {text word : Text}
    (member : word ∈ splitWhitespace text) {c : Char} (blank : isWhitespace c) :
    c ∉ word :=
  not_mem_of_mem_splitOnP (List.mem_of_mem_filter member) blank

end Hiraeth
