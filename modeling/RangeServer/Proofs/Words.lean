import Mathlib
import RangeServer.AccessLog.Pattern
import RangeServer.Net.Printer

/-!
# Words

A text is called a word if no blank stands in it and none of the control characters before the
blank. Numbers, addresses and instants are written in words; the one blank of an instant in common
log lines stands between the clock and the offset. What is made of words with blanks between them
can be cut at the blanks again, and a line end is no part of any word.
-/

namespace RangeServer

/-- Whether a text is a word: no blank stands in it and none of the controls before the blank. -/
def IsWord (text : List Char) : Prop := ∀ c ∈ text, 0x20 < c.toNat

instance (text : List Char) : Decidable (IsWord text) :=
  decidable_of_iff (text.all fun c => decide (0x20 < c.toNat)) (by simp [IsWord])

theorem isWord_nil : IsWord [] := by simp [IsWord]

theorem isWord_cons {c : Char} {text : List Char} :
    IsWord (c :: text) ↔ 0x20 < c.toNat ∧ IsWord text :=
  List.forall_mem_cons

theorem isWord_append {text rest : List Char} : IsWord (text ++ rest) ↔ IsWord text ∧ IsWord rest :=
  List.forall_mem_append

theorem IsWord.not_mem {text : List Char} (isWord : IsWord text) {c : Char} (low : c.toNat ≤ 0x20) :
    c ∉ text := by
  intro mem
  have high := isWord c mem
  omega

theorem isWord_intercalate {separator : List Char} {parts : List (List Char)}
    (between : IsWord separator) (words : ∀ part ∈ parts, IsWord part) :
    IsWord (separator.intercalate parts) := by
  intro c mem
  induction parts with
  | nil => simp [List.intercalate] at mem
  | cons part rest ih =>
      cases rest with
      | nil =>
          apply words part List.mem_cons_self
          simpa [List.intercalate] using mem
      | cons next others =>
          simp only [List.intercalate_cons_cons, List.mem_append] at mem
          rcases mem with (inPart | inSeparator) | inRest
          · exact words part List.mem_cons_self c inPart
          · exact between c inSeparator
          · apply ih
            · intro other otherMem
              exact words other (List.mem_cons_of_mem _ otherMem)
            · exact inRest

/-! ## Numbers -/

theorem isWord_digitChar : ∀ value < 16, IsWord [Nat.digitChar value] := by decide

theorem isWord_toDigits {base : Nat} (notUnary : 1 < base) (small : base ≤ 16) (number : Nat) :
    IsWord (Nat.toDigits base number) := by
  induction number using Nat.strong_induction_on with
  | h number ih =>
      rw [Nat.toDigits_eq_if notUnary]
      split
      · apply isWord_digitChar
        omega
      · have last : number % base < base := Nat.mod_lt _ (by omega)
        apply isWord_append.mpr
        refine ⟨ih _ (Nat.div_lt_self (by omega) notUnary), ?_⟩
        apply isWord_digitChar
        omega

namespace Decimal

theorem isWord_digits (number : Nat) : IsWord (digits number) :=
  isWord_toDigits (by decide) (by decide) number

theorem isWord_padded (width number : Nat) : IsWord (padded width number) := by
  rw [padded, isWord_append]
  refine ⟨?_, isWord_digits number⟩
  intro c mem
  rw [List.eq_of_mem_replicate mem]
  decide

end Decimal

theorem Dyadic.isWord_fixedText (number : Dyadic) (places : Nat) :
    IsWord (number.fixedText places).toList := by
  simp only [fixedText, String.toList_append, Decimal.toList_text, String.toList_ofList,
    isWord_append, Decimal.isWord_digits, Decimal.isWord_padded, true_and, and_true]
  decide

/-! ## Addresses and instants -/

theorem Ipv4.isWord_text (address : Ipv4) : IsWord address.text.toList := by
  rw [Ipv4.text, String.toList_intercalate]
  apply isWord_intercalate (by decide)
  intro part mem
  simp only [List.map_map, List.mem_map, Function.comp_apply, Decimal.toList_text] at mem
  rcases mem with ⟨octet, -, rfl⟩
  exact Decimal.isWord_digits _

theorem Ipv6.isWord_groupsText (groups : List UInt16) : IsWord (groupsText groups).toList := by
  rw [groupsText, String.toList_intercalate]
  apply isWord_intercalate (by decide)
  intro part mem
  simp only [List.map_map, List.mem_map, Function.comp_apply, hexText, String.toList_ofList] at mem
  rcases mem with ⟨group, -, rfl⟩
  exact isWord_toDigits (by decide) (by decide) _

theorem IpAddress.isWord_text (address : IpAddress) : IsWord address.text.toList := by
  cases address with
  | v4 address => exact address.isWord_text
  | v6 address zone =>
      simp only [IpAddress.text, Ipv6.text]
      split
      · rw [String.toList_append, isWord_append]
        exact ⟨by decide, Ipv4.isWord_text _⟩
      · split
        · simp only [String.toList_append, isWord_append]
          exact ⟨⟨Ipv6.isWord_groupsText _, by decide⟩, Ipv6.isWord_groupsText _⟩
        · exact Ipv6.isWord_groupsText _

namespace Timestamp

theorem isWord_yearText (year : Int) : IsWord (yearText year) := by
  unfold yearText
  split
  · exact Decimal.isWord_padded _ _
  · refine isWord_cons.mpr ⟨?_, Decimal.isWord_padded _ _⟩
    split <;> decide

theorem isWord_clockText (time : Timestamp) : IsWord time.clockText := by
  simp only [clockText, isWord_append, isWord_cons, Decimal.isWord_padded, true_and, and_true]
  decide

theorem isWord_offsetText (time : Timestamp) {separator : List Char} (between : IsWord separator) :
    IsWord (time.offsetText separator) := by
  simp only [offsetText, isWord_append, isWord_cons, Decimal.isWord_padded, between, and_true]
  split <;> decide

theorem isWord_fractionText (time : Timestamp) : IsWord time.fractionText := by
  simp only [fractionText]
  split_ifs
  · exact isWord_nil
  · exact isWord_cons.mpr ⟨by decide, Decimal.isWord_padded _ _⟩
  · exact isWord_cons.mpr ⟨by decide, Decimal.isWord_padded _ _⟩
  · exact isWord_cons.mpr ⟨by decide, Decimal.isWord_padded _ _⟩

theorem isWord_monthName (month : Nat) : IsWord (monthName month) := by
  have words : ∀ name ∈ monthNames, IsWord name := by decide
  unfold monthName
  cases found : monthNames[month - 1]? with
  | none => exact isWord_nil
  | some name => exact words name (List.mem_of_getElem? found)

/-- The day and the clock in the form of common log lines, in front of the offset. -/
def dayText (time : Timestamp) : List Char :=
  Decimal.padded 2 time.date.day ++ '/' :: (monthName time.date.month ++ '/' ::
    (yearText time.date.year ++ ':' :: time.clockText))

theorem toList_logText (time : Timestamp) :
    time.logText.toList = time.dayText ++ ' ' :: time.offsetText [] := by
  simp [logText, dayText]

theorem isWord_dayText (time : Timestamp) : IsWord time.dayText := by
  simp only [dayText, isWord_append, isWord_cons, Decimal.isWord_padded, isWord_monthName,
    isWord_yearText, isWord_clockText, true_and, and_true]
  decide

theorem isWord_internetText (time : Timestamp) : IsWord time.internetText.toList := by
  simp only [internetText, String.toList_ofList, isWord_append, isWord_cons,
    Decimal.isWord_padded, isWord_yearText, isWord_clockText, isWord_fractionText, true_and]
  refine ⟨by decide, by decide, by decide, ?_⟩
  exact time.isWord_offsetText (by decide)

end Timestamp

end RangeServer
