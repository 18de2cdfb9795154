import Mathlib
import RangeServer.Proofs.AccessLines
import RangeServer.Proofs.RangeReading

/-!
# Offsets held at the largest word

The reader of an offset takes one digit after the other and holds what it has at the largest word,
in the product and again in the sum. `RangeSpec.readOffset?_held` says what this comes to for texts
of any length, by their bytes alone: a text is refused exactly if it is empty or has a byte that is
no digit, and the offset is the number that the bytes denote, held once at the end. The number is a
sum over places here, each byte times a power of ten, so that no fold stands on both sides.
-/

namespace RangeServer

/-! ## Digits as bytes -/

/-- Whether a byte is the code of a decimal digit. -/
def IsDigitByte (byte : UInt8) : Prop := 0x30 ≤ byte.toNat ∧ byte.toNat ≤ 0x39

/-- The number that bytes of digits denote: the last counts ones, the one before it tens, and so
on. -/
def denoted (bytes : Bytes) : Nat :=
  Nat.ofDigits 10 (bytes.reverse.map fun byte => byte.toNat - 0x30)

theorem denoted_concat (bytes : Bytes) (last : UInt8) :
    denoted (bytes ++ [last]) = 10 * denoted bytes + (last.toNat - 0x30) := by
  simp [denoted, Nat.ofDigits_cons, Nat.add_comm]

namespace Utf8

/-- A character whose bytes are digits is a digit itself: one such byte is enough. -/
theorem isDigit_of_encodeChar {c : Char}
    (areDigits : ∀ byte ∈ String.utf8EncodeChar c, IsDigitByte byte) : c.isDigit = true := by
  rcases List.exists_mem_of_ne_nil _ (String.utf8EncodeChar_ne_nil (c := c)) with ⟨byte, mem⟩
  have isDigit : 0x30 ≤ byte.toNat ∧ byte.toNat ≤ 0x39 := areDigits byte mem
  have code : c.toNat = byte.toNat := toNat_eq_of_mem_encodeChar mem (by omega)
  apply Decimal.isDigit_iff.mpr
  omega

theorem encodeChar_of_isDigit {c : Char} (isDigit : c.isDigit = true) :
    String.utf8EncodeChar c = [UInt8.ofNat c.toNat] := by
  have code := Decimal.code_of_isDigit isDigit
  exact encodeChar_of_ascii (by omega)

theorem toNat_byte_of_isDigit {c : Char} (isDigit : c.isDigit = true) :
    (UInt8.ofNat c.toNat).toNat = c.toNat := by
  have code := Decimal.code_of_isDigit isDigit
  rw [UInt8.toNat_ofNat']
  omega

theorem areDigits_encode_iff {text : String} :
    (∀ byte ∈ encode text, IsDigitByte byte) ↔ ∀ c ∈ text.toList, c.isDigit = true := by
  constructor
  · intro areDigits c mem
    apply isDigit_of_encodeChar
    intro byte encoded
    exact areDigits byte (List.mem_flatMap.mpr ⟨c, mem, encoded⟩)
  · intro areDigits byte mem
    rcases List.mem_flatMap.mp mem with ⟨c, isChar, encoded⟩
    have isDigit := areDigits c isChar
    have code := Decimal.code_of_isDigit isDigit
    rw [encodeChar_of_isDigit isDigit, List.mem_singleton] at encoded
    rw [IsDigitByte, encoded, toNat_byte_of_isDigit isDigit]
    omega

theorem encode_eq_nil_iff {text : String} : encode text = [] ↔ text.toList = [] := by
  rw [encode, List.flatMap_eq_nil_iff]
  constructor
  · intro noBytes
    by_contra notEmpty
    rcases List.exists_mem_of_ne_nil _ notEmpty with ⟨c, mem⟩
    exact String.utf8EncodeChar_ne_nil (noBytes c mem)
  · intro isEmpty
    simp [isEmpty]

end Utf8

/-- Digits denote the same number as characters and as bytes. -/
theorem denoted_of_isDigit {run : List Char} (areDigits : ∀ c ∈ run, c.isDigit = true) :
    denoted (run.flatMap String.utf8EncodeChar) = Decimal.value run := by
  -- The last digit counts ones on both sides, so the induction takes it off the end.
  induction run using List.reverseRecOn with
  | nil => rfl
  | append_singleton front last ih =>
      have frontDigits : ∀ c ∈ front, c.isDigit = true := by
        intro c mem
        exact areDigits c (List.mem_append_left [last] mem)
      have lastDigit : last.isDigit = true := areDigits last (by simp)
      rw [List.flatMap_append, List.flatMap_singleton, Utf8.encodeChar_of_isDigit lastDigit,
        denoted_concat, ih frontDigits, Utf8.toNat_byte_of_isDigit lastDigit, Decimal.value,
        Decimal.value, Nat.ofDigitChars_append]
      rfl

namespace RangeSpec

/-! ## Offsets on the way -/

theorem pushDigit_maxWord (digit : Char) : pushDigit maxWord digit = maxWord := by
  unfold pushDigit
  omega

theorem foldl_pushDigit_maxWord (run : List Char) : run.foldl pushDigit maxWord = maxWord := by
  induction run with
  | nil => rfl
  | cons digit rest ih => rw [List.foldl_cons, pushDigit_maxWord, ih]

/-! ## Offsets by their bytes -/

theorem isNumeral_iff_bytes {text : String} :
    Decimal.isNumeral text.toList = true ↔
      Utf8.encode text ≠ [] ∧ ∀ byte ∈ Utf8.encode text, IsDigitByte byte := by
  rw [Utf8.areDigits_encode_iff, Ne, Utf8.encode_eq_nil_iff]
  simp [Decimal.isNumeral]

/-- An offset is refused exactly if its text is empty or has a byte that is no digit, and is else
the number that the bytes denote, held at the largest word. After each digit on the way it is the
number so far, held as well, and once it is the largest word no further digit changes it. -/
theorem readOffset?_held (text : String) :
    (readOffset? text.toList = none ↔
        text = "" ∨ ∃ byte ∈ Utf8.encode text, ¬IsDigitByte byte) ∧
      (∀ offset, readOffset? text.toList = some offset →
        offset = min (denoted (Utf8.encode text)) maxWord) ∧
      ∀ front back : List Char, front.foldl pushDigit 0 = min (Decimal.value front) maxWord ∧
        (front.foldl pushDigit 0 = maxWord → (front ++ back).foldl pushDigit 0 = maxWord) := by
  refine ⟨?_, ?_, ?_⟩
  · have refused : readOffset? text.toList = none ↔ ¬Decimal.isNumeral text.toList = true := by
      simp [readOffset?]
    have isEmpty : text = "" ↔ Utf8.encode text = [] := by
      rw [Utf8.encode_eq_nil_iff, String.toList_eq_nil_iff]
    rw [refused, isNumeral_iff_bytes, isEmpty, not_and_or, not_not]
    simp only [not_forall, exists_prop]
  · intro offset isRead
    rcases readOffset?_eq_some_iff.mp isRead with ⟨numeral, isOffset⟩
    have sameNumber : denoted (Utf8.encode text) = Decimal.value text.toList :=
      denoted_of_isDigit fun c mem => Decimal.isDigit_of_mem numeral mem
    rw [isOffset, sameNumber]
  · intro front back
    refine ⟨foldl_pushDigit front, ?_⟩
    intro isLargest
    rw [List.foldl_append, isLargest, foldl_pushDigit_maxWord]

/-- A numeral with zeros in front that denotes the first number past all words. -/
theorem readOffset?_held_past_words :
    denoted (Utf8.encode "00018446744073709551616") = maxWord + 1 ∧
      readOffset? "00018446744073709551616".toList = some maxWord := by
  have areDigits : ∀ c ∈ "00018446744073709551616".toList, c.isDigit = true :=
    List.all_eq_true.mp (by cbv)
  have number : denoted (Utf8.encode "00018446744073709551616") = maxWord + 1 := by
    rw [Utf8.encode, denoted_of_isDigit areDigits]
    decide
  rcases readOffset?_held "00018446744073709551616" with ⟨refused, isHeld, -⟩
  rw [number] at isHeld
  cases isRead : readOffset? "00018446744073709551616".toList with
  | none =>
      rcases refused.mp isRead with isEmpty | ⟨byte, mem, noDigit⟩
      · exact absurd isEmpty (by decide)
      · exact absurd (Utf8.areDigits_encode_iff.mpr areDigits byte mem) noDigit
  | some offset => exact ⟨number, congrArg some (isHeld offset isRead)⟩

end RangeSpec

end RangeServer
