import RangeServer.Text.Runs

/-!
# Decimal numerals

The digits of a natural number, the number that a run of digits denotes, and digits filled up with
zeros on the left. Reading what was written gives the number back (`value_digits`), and writing what
was read gives the digits back unless zeros stood in front of them (`digits_value`).
-/

namespace RangeServer.Decimal

/-- The decimal digits of a number, without leading zeros. -/
def digits (number : Nat) : List Char := Nat.toDigits 10 number

/-- The decimal numeral of a number. -/
def text (number : Nat) : String := String.ofList (digits number)

/-- The decimal digits of a number, filled up with zeros to at least `width` of them. -/
def padded (width number : Nat) : List Char :=
  List.replicate (width - (digits number).length) '0' ++ digits number

/-- The value of one digit. -/
def digitValue (digit : Char) : Nat := digit.toNat - '0'.toNat

/-- The number that a run of digits denotes, leading zeros included. -/
def value (run : List Char) : Nat := Nat.ofDigitChars 10 run 0

/-- Whether a run of characters is a numeral: at least one digit and nothing else. -/
def isNumeral (run : List Char) : Bool := !run.isEmpty && run.all Char.isDigit

/-- The number that a numeral denotes; anything else is no numeral. -/
def read? (run : List Char) : Option Nat := if isNumeral run then some (value run) else none

theorem value_digits (number : Nat) : value (digits number) = number := by
  simp [value, digits]

theorem digits_inj {number other : Nat} (same : digits number = digits other) : number = other := by
  rw [← value_digits number, same, value_digits]

theorem isNumeral_digits (number : Nat) : isNumeral (digits number) = true := by
  have allDigits : (Nat.toDigits 10 number).all Char.isDigit = true := by
    simpa [List.all_eq_true] using fun c h => Nat.isDigit_of_mem_toDigits (by decide) (by decide) h
  simp [isNumeral, digits, allDigits]

theorem read?_digits (number : Nat) : read? (digits number) = some number := by
  simp [read?, isNumeral_digits, value_digits]

@[simp]
theorem toList_text (number : Nat) : (text number).toList = digits number := by simp [text]

theorem ne_nil_of_isNumeral {run : List Char} (numeral : isNumeral run = true) : run ≠ [] := by
  rintro rfl
  simp [isNumeral] at numeral

theorem isDigit_of_mem {run : List Char} (numeral : isNumeral run = true) {digit : Char}
    (mem : digit ∈ run) : digit.isDigit = true := by
  simp only [isNumeral, Bool.and_eq_true, List.all_eq_true] at numeral
  exact numeral.2 digit mem

/-- A numeral is all that a search for digits takes. -/
theorem span_digits {run rest : List Char} (numeral : isNumeral run = true)
    (stops : ∀ c ∈ rest.head?, c.isDigit = false) :
    (run ++ rest).takeWhile Char.isDigit = run ∧ (run ++ rest).dropWhile Char.isDigit = rest :=
  span_append (fun _ mem => isDigit_of_mem numeral mem) stops

theorem ne_of_isDigit {digit mark : Char} (isDigit : digit.isDigit = true)
    (noDigit : mark.isDigit = false) : digit ≠ mark := by
  rintro rfl
  simp [noDigit] at isDigit

theorem ne_mark_of_mem {run : List Char} (numeral : isNumeral run = true) {mark : Char}
    (noDigit : mark.isDigit = false) {digit : Char} (mem : digit ∈ run) :
    (digit != mark) = true :=
  bne_iff_ne.mpr (ne_of_isDigit (isDigit_of_mem numeral mem) noDigit)

/-- A numeral in front of a mark is all that stands in front of the first such mark. -/
theorem takeWhile_append_mark {run : List Char} (numeral : isNumeral run = true) {mark : Char}
    (noDigit : mark.isDigit = false) (rest : List Char) :
    (run ++ mark :: rest).takeWhile (· != mark) = run :=
  (span_append_cons (fun _ mem => ne_mark_of_mem numeral noDigit mem) (by simp) rest).1

theorem dropWhile_append_mark {run : List Char} (numeral : isNumeral run = true) {mark : Char}
    (noDigit : mark.isDigit = false) (rest : List Char) :
    (run ++ mark :: rest).dropWhile (· != mark) = mark :: rest :=
  (span_append_cons (fun _ mem => ne_mark_of_mem numeral noDigit mem) (by simp) rest).2

/-! ## Numerals that were not printed -/

theorem isDigit_iff {digit : Char} :
    digit.isDigit = true ↔ 48 ≤ digit.toNat ∧ digit.toNat ≤ 57 := by
  simp only [Char.isDigit, ge_iff_le, Bool.and_eq_true, decide_eq_true_eq, UInt32.le_iff_toNat_le]
  exact Iff.rfl

theorem code_of_isDigit {digit : Char} (isDigit : digit.isDigit = true) :
    48 ≤ digit.toNat ∧ digit.toNat ≤ 57 :=
  isDigit_iff.mp isDigit

theorem digitValue_eq (digit : Char) : digitValue digit = digit.toNat - 48 := rfl

theorem digits_digitValue {digit : Char} (isDigit : digit.isDigit = true) :
    digits (digitValue digit) = [digit] := by
  have code := code_of_isDigit isDigit
  have codes : ∀ code < 58, 48 ≤ code → digits (code - 48) = [Char.ofNat code] := by decide
  rw [digitValue_eq, codes digit.toNat (by omega) code.1, Char.ofNat_toNat]

/-- Digits behind those of a positive number go on to spell a number. -/
theorem digits_append {number : Nat} (positive : 0 < number) {run : List Char}
    (isDigit : ∀ digit ∈ run, digit.isDigit = true) :
    digits number ++ run = digits (Nat.ofDigitChars 10 run number) := by
  induction run generalizing number with
  | nil => simp
  | cons digit rest ih =>
      have code := code_of_isDigit (isDigit digit List.mem_cons_self)
      have small : digitValue digit < 10 := by
        rw [digitValue_eq]
        omega
      have appended : digits number ++ [digit] = digits (10 * number + digitValue digit) := by
        rw [← digits_digitValue (isDigit digit List.mem_cons_self)]
        exact Nat.toDigits_append_toDigits (by decide) positive small
      rw [← List.singleton_append, ← List.append_assoc, appended,
        ih (by omega) fun other mem => isDigit other (List.mem_cons_of_mem _ mem)]
      rfl

/-- A numeral without zeros in front has the digits of the number that it denotes. -/
theorem digits_value {run : List Char} (numeral : isNumeral run = true)
    (noLeadingZero : run.head? = some '0' → run = ['0']) : digits (value run) = run := by
  have isDigit (digit : Char) (mem : digit ∈ run) : digit.isDigit = true :=
    isDigit_of_mem numeral mem
  cases run with
  | nil => exact absurd rfl (ne_nil_of_isNumeral numeral)
  | cons first others =>
      by_cases isZero : first = '0'
      · rw [noLeadingZero (congrArg some isZero)]
        rfl
      · have firstIsDigit := isDigit first List.mem_cons_self
        have code := code_of_isDigit firstIsDigit
        have notZero : first.toNat ≠ 48 := fun same => isZero (Char.toNat_inj.mp same)
        have positive : 0 < digitValue first := by
          rw [digitValue_eq]
          omega
        have spelled := digits_append positive fun digit mem =>
          isDigit digit (List.mem_cons_of_mem first mem)
        rw [digits_digitValue firstIsDigit] at spelled
        rw [value, Nat.ofDigitChars_cons, Nat.mul_zero, Nat.zero_add]
        exact spelled.symm

end RangeServer.Decimal
