import Mathlib
import RangeServer.Number.Shortest

/-!
# Shortest decimals read back

The text of a floating-point number is a decimal numeral, and the number is the nearest
floating-point number to what the numeral denotes: `Binary64.spelledBy_text`.

The numbers on either side of a number with 53 bits are a unit of its last bit away, or half a unit
below a power of two (`Dyadic.IsDouble.gap_above` and `gap_below`). A decimal within the midpoints
to them is nearest to the number, and what the search tries is tested against these midpoints. When
the search ends without a result, seventeen digits are so near that no test is needed.
-/

namespace RangeServer

/-! ## Powers -/

theorem cast_twoTo (exponent : ℕ) : (twoTo exponent : ℚ) = 2 ^ exponent := by
  rw [twoTo, Nat.pow_eq]
  exact Nat.cast_pow 2 exponent

theorem cast_tenTo (exponent : ℕ) : (tenTo exponent : ℚ) = 10 ^ exponent := by
  rw [tenTo, Nat.pow_eq]
  exact Nat.cast_pow 10 exponent

/-- A power with any exponent, as a quotient of powers with natural exponents. -/
theorem zpow_eq_pow_div_pow {base : ℚ} (nonzero : base ≠ 0) (exponent : ℤ) :
    base ^ exponent = base ^ exponent.toNat / base ^ (-exponent).toNat := by
  have split : exponent = (exponent.toNat : ℤ) - ((-exponent).toNat : ℤ) := by omega
  conv_lhs => rw [split]
  rw [zpow_sub₀ nonzero, zpow_natCast, zpow_natCast]

/-! ## Exact values -/

namespace Dyadic

/-- The exact value. -/
def toRat (number : Dyadic) : ℚ := number.significand * 2 ^ number.exponent

/-- Whether a number is kept in the way of binary floating point: with 53 bits, of which the highest
is set unless the exponent is the least, or as zero. -/
structure IsDouble (number : Dyadic) : Prop where
  small : number.significand < 2 ^ 53
  aboveLeast : -1074 ≤ number.exponent
  normal : number.significand = 0 ∨ 2 ^ 52 ≤ number.significand ∨ number.exponent = -1074

/-- Whether no floating-point number is nearer to an exact one, the even one of two that are equally
near. -/
structure IsNearest (number : Dyadic) (exact : ℚ) : Prop where
  le : ∀ other : Dyadic, other.IsDouble → |exact - number.toRat| ≤ |exact - other.toRat|
  even : ∀ other : Dyadic, other.IsDouble → other.toRat ≠ number.toRat →
    |exact - number.toRat| = |exact - other.toRat| → Even number.significand

theorem denominator_pos (number : Dyadic) : 0 < number.denominator :=
  Nat.pow_pos (by decide)

theorem toRat_eq (number : Dyadic) :
    number.toRat = (number.numerator : ℚ) / (number.denominator : ℚ) := by
  rw [toRat, zpow_eq_pow_div_pow two_ne_zero, numerator, denominator, Nat.cast_mul, cast_twoTo,
    cast_twoTo, mul_div_assoc]

/-! ## Neighbours -/

section

variable {number other : Dyadic}

theorem zpow_mul_natPow {small large : ℤ} (le : small ≤ large) :
    (2 : ℚ) ^ large = 2 ^ small * (2 ^ (large - small).toNat : ℕ) := by
  have split : large = small + ((large - small).toNat : ℤ) := by omega
  conv_lhs => rw [split]
  rw [zpow_add₀ two_ne_zero, zpow_natCast]
  push_cast
  rfl

/-- A number with at least the exponent of another is a multiple of its last bit. -/
theorem exists_toRat_eq_mul (le : number.exponent ≤ other.exponent) :
    ∃ count : ℕ, other.toRat = count * 2 ^ number.exponent := by
  refine ⟨other.significand * 2 ^ (other.exponent - number.exponent).toNat, ?_⟩
  rw [toRat, zpow_mul_natPow le]
  push_cast
  ring

/-- A number with a smaller exponent ends at half a unit below the least significand that the
larger exponent goes with. -/
theorem IsDouble.toRat_le_of_lt (isDouble : other.IsDouble)
    (lt : other.exponent < number.exponent) :
    other.toRat ≤ 2 ^ 52 * 2 ^ number.exponent - 2 ^ number.exponent / 2 := by
  have small : (other.significand : ℚ) ≤ 2 ^ 53 - 1 := by
    have isSmall : other.significand + 1 ≤ 2 ^ 53 := isDouble.small
    have casted : ((other.significand + 1 : ℕ) : ℚ) ≤ ((2 ^ 53 : ℕ) : ℚ) := by
      exact_mod_cast isSmall
    push_cast at casted
    linarith
  have smaller : (2 : ℚ) ^ other.exponent ≤ 2 ^ number.exponent / 2 := by
    have half : (2 : ℚ) ^ (number.exponent - 1) = 2 ^ number.exponent / 2 := by
      rw [zpow_sub_one₀ two_ne_zero, div_eq_mul_inv]
    rw [← half]
    exact zpow_le_zpow_right₀ one_le_two (by omega)
  calc other.toRat ≤ (2 ^ 53 - 1) * (2 ^ number.exponent / 2) := by
        rw [toRat]
        exact mul_le_mul small smaller (by positivity) (by norm_num)
    _ = 2 ^ 52 * 2 ^ number.exponent - 2 ^ number.exponent / 2 := by ring

/-- The next number above is a unit of the last bit away. -/
theorem IsDouble.gap_above (isDouble : number.IsDouble) (otherIsDouble : other.IsDouble)
    (positive : 0 < number.significand) (above : number.toRat < other.toRat) :
    number.toRat + 2 ^ number.exponent ≤ other.toRat := by
  have unit : (0 : ℚ) < 2 ^ number.exponent := by positivity
  rcases le_or_gt number.exponent other.exponent with le | lt
  · rcases exists_toRat_eq_mul le with ⟨count, isCount⟩
    rw [isCount] at above ⊢
    rw [toRat] at above ⊢
    have more : number.significand < count := by
      exact_mod_cast lt_of_mul_lt_mul_right above unit.le
    have next : (number.significand : ℚ) + 1 ≤ count := by exact_mod_cast more
    calc (number.significand : ℚ) * 2 ^ number.exponent + 2 ^ number.exponent
        = (number.significand + 1) * 2 ^ number.exponent := by ring
      _ ≤ count * 2 ^ number.exponent := mul_le_mul_of_nonneg_right next unit.le
  · have below := otherIsDouble.toRat_le_of_lt lt
    have least := otherIsDouble.aboveLeast
    have normal : 2 ^ 52 ≤ number.significand := by
      rcases isDouble.normal with isZero | isNormal | isLeast
      · omega
      · exact isNormal
      · omega
    have high : (2 ^ 52 : ℚ) * 2 ^ number.exponent ≤ number.toRat := by
      rw [toRat]
      exact mul_le_mul_of_nonneg_right (by exact_mod_cast normal) unit.le
    linarith

/-- How far the next number below is away, in halves of the last bit. -/
def halvesBelow (number : Dyadic) : ℚ :=
  if number.significand = 2 ^ 52 ∧ -1074 < number.exponent then 1 else 2

theorem one_le_halvesBelow (number : Dyadic) : 1 ≤ number.halvesBelow := by
  rw [halvesBelow]
  split <;> norm_num

theorem halvesBelow_pos (number : Dyadic) : 0 < number.halvesBelow :=
  zero_lt_one.trans_le number.one_le_halvesBelow

/-- The next number below is a unit of the last bit away, or half a unit below a power of two. -/
theorem IsDouble.gap_below (isDouble : number.IsDouble) (otherIsDouble : other.IsDouble)
    (positive : 0 < number.significand) (below : other.toRat < number.toRat) :
    other.toRat ≤ number.toRat - number.halvesBelow * (2 ^ number.exponent / 2) := by
  have exact : number.toRat = number.significand * 2 ^ number.exponent := rfl
  have unit : (0 : ℚ) < 2 ^ number.exponent := by positivity
  rcases le_or_gt number.exponent other.exponent with le | lt
  · rcases exists_toRat_eq_mul le with ⟨count, isCount⟩
    rw [isCount] at below ⊢
    rw [exact] at below ⊢
    have fewer : count < number.significand := by
      exact_mod_cast lt_of_mul_lt_mul_right below unit.le
    have next : (count : ℚ) + 1 ≤ number.significand := by exact_mod_cast fewer
    have atMost : number.halvesBelow * (2 ^ number.exponent / 2) ≤ 2 ^ number.exponent := by
      rw [halvesBelow]
      split <;> linarith
    have scaled := mul_le_mul_of_nonneg_right next unit.le
    linarith
  · have low := otherIsDouble.toRat_le_of_lt lt
    have least := otherIsDouble.aboveLeast
    have normal : 2 ^ 52 ≤ number.significand := by
      rcases isDouble.normal with isZero | isNormal | isLeast
      · omega
      · exact isNormal
      · omega
    rw [halvesBelow]
    split
    · rename_i isPower
      rw [exact, isPower.1]
      push_cast
      linarith
    · rename_i notPower
      have more : 2 ^ 52 + 1 ≤ number.significand := by omega
      have casted : (2 ^ 52 + 1 : ℚ) ≤ number.significand := by exact_mod_cast more
      have scaled := mul_le_mul_of_nonneg_right casted unit.le
      rw [exact]
      linarith

/-- Within the midpoints to its neighbours nothing is nearer than a number, and on the midpoints an
even one counts. -/
theorem IsDouble.isNearest (isDouble : number.IsDouble) (positive : 0 < number.significand)
    {exact : ℚ} (low : number.toRat - number.halvesBelow * (2 ^ number.exponent / 4) ≤ exact)
    (high : exact ≤ number.toRat + 2 ^ number.exponent / 2)
    (within : Even number.significand ∨
      number.toRat - number.halvesBelow * (2 ^ number.exponent / 4) < exact ∧
        exact < number.toRat + 2 ^ number.exponent / 2) : number.IsNearest exact := by
  have unit : (0 : ℚ) < 2 ^ number.exponent := by positivity
  have gap : 0 < number.halvesBelow * (2 ^ number.exponent / 4) :=
    mul_pos number.halvesBelow_pos (by positivity)
  have cases : ∀ other : Dyadic, other.IsDouble → other.toRat = number.toRat ∨
      |exact - number.toRat| ≤ |exact - other.toRat| ∧
        (|exact - number.toRat| = |exact - other.toRat| → Even number.significand) := by
    intro other otherIsDouble
    rcases lt_trichotomy other.toRat number.toRat with below | same | above
    · right
      have gap := isDouble.gap_below otherIsDouble positive below
      have isAbove : other.toRat < exact := by linarith
      rw [abs_of_pos (sub_pos.mpr isAbove)]
      rcases le_total exact number.toRat with le | le
      · rw [abs_of_nonpos (sub_nonpos.mpr le)]
        refine ⟨by linarith, fun equal => within.resolve_right fun strict => ?_⟩
        linarith [strict.1]
      · rw [abs_of_nonneg (sub_nonneg.mpr le)]
        exact ⟨by linarith, fun equal => by linarith⟩
    · exact .inl same
    · right
      have gap := isDouble.gap_above otherIsDouble positive above
      have isBelow : exact < other.toRat := by linarith
      rw [abs_of_neg (sub_neg.mpr isBelow)]
      rcases le_total exact number.toRat with le | le
      · rw [abs_of_nonpos (sub_nonpos.mpr le)]
        exact ⟨by linarith, fun equal => by linarith⟩
      · rw [abs_of_nonneg (sub_nonneg.mpr le)]
        refine ⟨by linarith, fun equal => within.resolve_right fun strict => ?_⟩
        linarith [strict.2]
  constructor
  · intro other otherIsDouble
    rcases cases other otherIsDouble with same | ⟨le, -⟩
    · rw [same]
    · exact le
  · intro other otherIsDouble differs equal
    rcases cases other otherIsDouble with same | ⟨-, even⟩
    · exact absurd same differs
    · exact even equal

end

end Dyadic

/-! ## Numerals -/

namespace Decimal

theorem value_append (first second : List Char) :
    value (first ++ second) = value first * 10 ^ second.length + value second := by
  have scaled : ∀ (run : List Char) (start : ℕ),
      Nat.ofDigitChars 10 run start = start * 10 ^ run.length + Nat.ofDigitChars 10 run 0 := by
    intro run
    induction run with
    | nil => simp
    | cons digit rest ih =>
        intro start
        rw [Nat.ofDigitChars_cons, Nat.ofDigitChars_cons, ih, ih (10 * 0 + _), List.length_cons,
          pow_succ]
        ring
  rw [value, Nat.ofDigitChars_append, scaled]
  rfl

theorem value_replicate_zero (count : ℕ) : value (List.replicate count '0') = 0 := by
  induction count with
  | zero => rfl
  | succ count ih =>
      rw [List.replicate_succ', value_append, ih]
      rfl

theorem value_padded (width number : ℕ) : value (padded width number) = number := by
  rw [padded, value_append, value_replicate_zero, value_digits, Nat.zero_mul, Nat.zero_add]

theorem length_padded {width number : ℕ} (positive : 0 < width) (small : number < 10 ^ width) :
    (padded width number).length = width := by
  have fits : (digits number).length ≤ width :=
    (Nat.length_toDigits_le_iff (by decide) positive).mpr small
  rw [padded, List.length_append, List.length_replicate]
  omega

theorem isDigit_of_mem_padded {width number : ℕ} {digit : Char}
    (mem : digit ∈ padded width number) : digit.isDigit = true := by
  rcases List.mem_append.mp mem with isZero | isDigit
  · rw [List.eq_of_mem_replicate isZero]
    rfl
  · exact isDigit_of_mem (isNumeral_digits number) isDigit

theorem lt_ten_pow_length (number : ℕ) : number < 10 ^ (digits number).length :=
  (Nat.length_toDigits_le_iff (by decide)
    (List.length_pos_of_ne_nil (ne_nil_of_isNumeral (isNumeral_digits number)))).mp le_rfl

theorem ten_pow_length_le {number : ℕ} (positive : 0 < number) :
    10 ^ ((digits number).length - 1) ≤ number := by
  by_contra less
  rcases Nat.eq_zero_or_pos ((digits number).length - 1) with one | more
  · rw [one] at less
    omega
  · have shorter : (digits number).length ≤ (digits number).length - 1 :=
      (Nat.length_toDigits_le_iff (by decide) more).mpr (not_le.mp less)
    omega

/-- The texts that are decimal numerals, and the number that each denotes: digits, or digits on both
sides of a point. -/
inductive Spells : List Char → ℚ → Prop where
  | whole {run : List Char} (numeral : isNumeral run = true) : Spells run (value run)
  | point {run fraction : List Char} (numeral : isNumeral run = true)
      (fractionNumeral : isNumeral fraction = true) :
      Spells (run ++ '.' :: fraction) (value (run ++ fraction) / 10 ^ fraction.length)

end Decimal

namespace ShortDecimal

/-- The exact value. -/
def toRat (decimal : ShortDecimal) : ℚ := decimal.digits / 10 ^ decimal.places

theorem toRat_eq (decimal : ShortDecimal) :
    decimal.toRat = (decimal.digits * tenTo (-decimal.places).toNat : ℕ) /
      (tenTo decimal.places.toNat : ℕ) := by
  rw [toRat, zpow_eq_pow_div_pow (by norm_num), Nat.cast_mul, cast_tenTo, cast_tenTo,
    div_div_eq_mul_div]

/-! ## The text -/

theorem trimZeros_append (fraction : List Char) :
    ∃ count, fraction = trimZeros fraction ++ List.replicate count '0' := by
  refine ⟨(fraction.reverse.takeWhile (· == '0')).length, ?_⟩
  have zeros : fraction.reverse.takeWhile (· == '0') =
      List.replicate (fraction.reverse.takeWhile (· == '0')).length '0' := by
    apply List.eq_replicate_of_mem
    intro c mem
    simpa using List.mem_takeWhile_imp mem
  have whole := congrArg List.reverse
    (List.takeWhile_append_dropWhile (p := (· == '0')) (l := fraction.reverse))
  rw [List.reverse_append, List.reverse_reverse, zeros, List.reverse_replicate] at whole
  exact whole.symm

/-- Zeros at the end of a fraction do not matter, and neither does a fraction of zeros. -/
theorem spells_trimZeros {run fraction : List Char} (numeral : Decimal.isNumeral run = true)
    (areDigits : ∀ c ∈ fraction, c.isDigit = true) :
    Decimal.Spells
      (if (trimZeros fraction).isEmpty then run else run ++ '.' :: trimZeros fraction)
      (Decimal.value (run ++ fraction) / 10 ^ fraction.length) := by
  rcases trimZeros_append fraction with ⟨count, isTrimmed⟩
  have same : (Decimal.value (run ++ fraction) : ℚ) / 10 ^ fraction.length =
      Decimal.value (run ++ trimZeros fraction) / 10 ^ (trimZeros fraction).length := by
    conv_lhs => rw [isTrimmed]
    rw [← List.append_assoc, Decimal.value_append _ (List.replicate count '0'),
      Decimal.value_replicate_zero, List.length_append, List.length_replicate, Nat.add_zero,
      pow_add]
    push_cast
    exact mul_div_mul_right _ _ (by positivity)
  rw [same]
  split
  · rename_i noFraction
    rw [List.isEmpty_iff.mp noFraction]
    simpa using Decimal.Spells.whole numeral
  · rename_i hasFraction
    apply Decimal.Spells.point numeral
    have trimmedDigits : ∀ c ∈ trimZeros fraction, c.isDigit = true := by
      intro c mem
      apply areDigits
      rw [isTrimmed]
      exact List.mem_append_left _ mem
    simpa [Decimal.isNumeral, hasFraction] using trimmedDigits

/-- The text denotes the decimal. -/
theorem spells_text (decimal : ShortDecimal) :
    Decimal.Spells decimal.text.toList decimal.toRat := by
  rw [toRat_eq, text]
  split
  · rename_i whole
    have noPlaces : decimal.places.toNat = 0 := by omega
    rw [Decimal.toList_text, noPlaces]
    have spelled := Decimal.Spells.whole
      (Decimal.isNumeral_digits (decimal.digits * tenTo (-decimal.places).toNat))
    rw [Decimal.value_digits] at spelled
    simpa [tenTo] using spelled
  · rename_i notWhole
    have noZeros : (-decimal.places).toNat = 0 := by omega
    have positive : 0 < decimal.places.toNat := by omega
    rw [noZeros]
    generalize decimal.places.toNat = places at positive ⊢
    have small : decimal.digits % tenTo places < 10 ^ places :=
      Nat.mod_lt _ (Nat.pow_pos (by decide))
    have allDigits : Decimal.value
        (Decimal.digits (decimal.digits / tenTo places) ++
          Decimal.padded places (decimal.digits % tenTo places)) = decimal.digits := by
      rw [Decimal.value_append, Decimal.value_digits, Decimal.value_padded,
        Decimal.length_padded positive small]
      exact Nat.div_add_mod' _ _
    have padDigits : ∀ c ∈ Decimal.padded places (decimal.digits % tenTo places),
        c.isDigit = true := fun _ => Decimal.isDigit_of_mem_padded
    have spelled := spells_trimZeros
      (Decimal.isNumeral_digits (decimal.digits / tenTo places)) padDigits
    rw [allDigits, Decimal.length_padded positive small] at spelled
    have sameDigits : (decimal.digits * tenTo 0 : ℕ) = decimal.digits := Nat.mul_one _
    rw [sameDigits, cast_tenTo]
    convert spelled using 1
    simp only
    split <;> simp

/-! ## The search -/

theorem compareWith_eq (decimal : ShortDecimal) (number : Dyadic) :
    decimal.compareWith number = compare decimal.toRat number.toRat := by
  have unit : (0 : ℚ) < (tenTo decimal.places.toNat : ℕ) := by
    exact_mod_cast Nat.pow_pos (by decide)
  have denominator : (0 : ℚ) < (number.denominator : ℕ) := by
    exact_mod_cast number.denominator_pos
  rw [compareWith, toRat_eq, Dyadic.toRat_eq]
  generalize decimal.digits * tenTo (-decimal.places).toNat = digits
  rcases lt_trichotomy (digits * number.denominator)
    (number.numerator * tenTo decimal.places.toNat) with lt | same | gt
  · rw [compare_lt_iff_lt.mpr lt, eq_comm, compare_lt_iff_lt, div_lt_div_iff₀ unit denominator]
    exact_mod_cast lt
  · rw [compare_eq_iff_eq.mpr same, eq_comm, compare_eq_iff_eq,
      div_eq_div_iff unit.ne' denominator.ne']
    exact_mod_cast same
  · rw [compare_gt_iff_gt.mpr gt, eq_comm, compare_gt_iff_gt, div_lt_div_iff₀ denominator unit]
    exact_mod_cast gt

/-- A number scaled by a power of ten, as a quotient of natural numbers. -/
theorem toRat_mul_zpow (number : Dyadic) (places : ℤ) :
    number.toRat * 10 ^ places = (number.numerator * tenTo places.toNat : ℕ) /
      (number.denominator * tenTo (-places).toNat : ℕ) := by
  rw [Dyadic.toRat_eq, zpow_eq_pow_div_pow (by norm_num), div_mul_div_comm, Nat.cast_mul,
    Nat.cast_mul, cast_tenTo, cast_tenTo]

section

variable {number : Dyadic} (positive : 0 < number.significand)

include positive

theorem toRat_low : (basin number).low.toRat =
    number.toRat - number.halvesBelow * (2 ^ number.exponent / 4) := by
  have quarter : (2 : ℚ) ^ (number.exponent - 2) = 2 ^ number.exponent / 4 := by
    rw [zpow_sub₀ two_ne_zero]
    norm_num
  have below : (if number.significand = twoTo 52 ∧ -1074 < number.exponent then 1 else 2 : ℕ) =
      number.halvesBelow := by
    rw [Dyadic.halvesBelow]
    exact apply_ite Nat.cast _ _ _
  have fits : (if number.significand = twoTo 52 ∧ -1074 < number.exponent then 1 else 2 : ℕ) ≤
      4 * number.significand := by
    split <;> omega
  rw [basin, Dyadic.toRat, Dyadic.toRat, quarter, Nat.cast_sub fits, below]
  push_cast
  ring

omit positive in
theorem toRat_high : (basin number).high.toRat = number.toRat + 2 ^ number.exponent / 2 := by
  have quarter : (2 : ℚ) ^ (number.exponent - 2) = 2 ^ number.exponent / 4 := by
    rw [zpow_sub₀ two_ne_zero]
    norm_num
  rw [basin, Dyadic.toRat, Dyadic.toRat, quarter]
  push_cast
  ring

theorem isNearest_of_readsBack (isDouble : number.IsDouble) {decimal : ShortDecimal}
    (reads : decimal.readsBack (basin number) = true) : number.IsNearest decimal.toRat := by
  have unit : (0 : ℚ) < 2 ^ number.exponent := by positivity
  have gap : 0 < number.halvesBelow * (2 ^ number.exponent / 4) :=
    mul_pos number.halvesBelow_pos (by positivity)
  have even : (basin number).closed = true → Even number.significand := by
    intro closed
    exact Nat.even_iff.mpr (by simpa [basin] using closed)
  rw [readsBack, compareWith_eq, compareWith_eq, toRat_low positive, toRat_high] at reads
  split at reads
  · rename_i above below
    rw [compare_gt_iff_gt] at above
    rw [compare_lt_iff_lt] at below
    exact isDouble.isNearest positive above.le below.le (.inr ⟨above, below⟩)
  · rename_i same
    rw [compare_eq_iff_eq] at same
    exact isDouble.isNearest positive same.ge (by linarith) (.inl (even reads))
  · rename_i same _
    rw [compare_eq_iff_eq] at same
    exact isDouble.isNearest positive (by linarith) same.le (.inl (even reads))
  · cases reads

theorem numerator_pos : 0 < number.numerator :=
  Nat.mul_pos positive (Nat.pow_pos (by decide))

/-- A number that is scaled has at least one digit before the point. -/
theorem one_le_scaled :
    1 ≤ number.toRat * 10 ^ leadingPlaces number.numerator number.denominator := by
  have numeratorPos : 0 < number.numerator := numerator_pos positive
  have denominatorPos : (0 : ℚ) < number.denominator := by exact_mod_cast number.denominator_pos
  rw [leadingPlaces]
  split
  · have digits : 0 < (Decimal.digits number.numerator).length :=
      List.length_pos_of_ne_nil (Decimal.ne_nil_of_isNumeral (Decimal.isNumeral_digits _))
    have low : (10 ^ ((Decimal.digits number.numerator).length - 1) : ℚ) ≤ number.numerator := by
      exact_mod_cast Decimal.ten_pow_length_le numeratorPos
    have high : (number.denominator : ℚ) ≤ 10 ^ (Decimal.digits number.denominator).length := by
      exact_mod_cast (Decimal.lt_ten_pow_length number.denominator).le
    generalize (Decimal.digits number.numerator).length = above at digits low ⊢
    generalize (Decimal.digits number.denominator).length = below at high ⊢
    have powers : (10 : ℚ) ^ below = 10 ^ (above - 1) * 10 ^ ((below : ℤ) - above + 1) := by
      rw [← zpow_natCast, ← zpow_natCast, ← zpow_add₀ (by norm_num)]
      congr 1
      omega
    rw [Dyadic.toRat_eq, div_mul_eq_mul_div, one_le_div denominatorPos]
    calc (number.denominator : ℚ) ≤ 10 ^ below := high
      _ = 10 ^ (above - 1) * 10 ^ ((below : ℤ) - above + 1) := powers
      _ ≤ number.numerator * 10 ^ ((below : ℤ) - above + 1) :=
        mul_le_mul_of_nonneg_right low (by positivity)
  · rename_i notLess
    rw [toRat_mul_zpow, one_le_div]
    · exact_mod_cast not_lt.mp notLess
    · exact_mod_cast Nat.mul_pos number.denominator_pos (Nat.pow_pos (by decide))

omit positive in
/-- The floor of a scaled number is less than one unit below it. -/
theorem scaledFloor_bounds (number : Dyadic) (places : ℤ) :
    (scaledFloor number.numerator number.denominator places : ℚ) ≤ number.toRat * 10 ^ places ∧
      number.toRat * 10 ^ places <
        scaledFloor number.numerator number.denominator places + 1 := by
  have unit : 0 < number.denominator * tenTo (-places).toNat :=
    Nat.mul_pos number.denominator_pos (Nat.pow_pos (by decide))
  have unitPos : (0 : ℚ) < (number.denominator * tenTo (-places).toNat : ℕ) := by
    exact_mod_cast unit
  rw [toRat_mul_zpow, le_div_iff₀ unitPos, div_lt_iff₀ unitPos, scaledFloor]
  constructor
  · exact_mod_cast Nat.div_mul_le_self _ _
  · rw [add_one_mul]
    exact_mod_cast Nat.lt_div_mul_add unit

/-- A unit of the seventeenth digit behind the first is less than a quarter of the last bit: it is
at most `10 ^ -17` of the number, which has 53 bits. -/
theorem one_lt_lastBit (isDouble : number.IsDouble) :
    1 < (2 : ℚ) ^ number.exponent / 4 *
      10 ^ (leadingPlaces number.numerator number.denominator + 17) := by
  have unit : (0 : ℚ) < 2 ^ number.exponent := by positivity
  have small : number.toRat < 2 ^ 53 * 2 ^ number.exponent := by
    rw [Dyadic.toRat]
    exact mul_lt_mul_of_pos_right (by exact_mod_cast isDouble.small) unit
  have oneDigit := one_le_scaled positive
  generalize leadingPlaces number.numerator number.denominator = leading at oneDigit ⊢
  have scale : (0 : ℚ) < 10 ^ leading := by positivity
  have both : (0 : ℚ) < 2 ^ number.exponent * 10 ^ leading := mul_pos unit scale
  calc (1 : ℚ) ≤ number.toRat * 10 ^ leading := oneDigit
    _ < 2 ^ 53 * 2 ^ number.exponent * 10 ^ leading := mul_lt_mul_of_pos_right small scale
    _ ≤ 2 ^ number.exponent / 4 * (10 ^ leading * 10 ^ 17) := by linarith
    _ = 2 ^ number.exponent / 4 * 10 ^ (leading + 17) := by
      rw [zpow_add₀ (by norm_num)]
      norm_num

/-- With seventeen digits behind the first one a number reads back. -/
theorem isNearest_scaledFloor (isDouble : number.IsDouble) {places : ℤ}
    (isPlaces : places = leadingPlaces number.numerator number.denominator + 17) :
    number.IsNearest
      (toRat ⟨scaledFloor number.numerator number.denominator places, places⟩) := by
  have unit : (0 : ℚ) < 2 ^ number.exponent := by positivity
  have quarter : (0 : ℚ) < 2 ^ number.exponent / 4 := by positivity
  have scale : (0 : ℚ) < 10 ^ places := by positivity
  have lastBit := one_lt_lastBit positive isDouble
  rw [← isPlaces] at lastBit
  rcases scaledFloor_bounds number places with ⟨floorLe, ltFloor⟩
  have exact : toRat ⟨scaledFloor number.numerator number.denominator places, places⟩ =
      scaledFloor number.numerator number.denominator places / 10 ^ places := rfl
  rw [exact]
  generalize (scaledFloor number.numerator number.denominator places : ℚ) = floor at *
  have high : floor / 10 ^ places ≤ number.toRat := by
    rw [div_le_iff₀ scale]
    exact floorLe
  have low : number.toRat - 2 ^ number.exponent / 4 < floor / 10 ^ places := by
    rw [lt_div_iff₀ scale]
    linarith
  have nearLow : number.toRat - number.halvesBelow * (2 ^ number.exponent / 4) <
      floor / 10 ^ places := by
    have wider := mul_le_mul_of_nonneg_right number.one_le_halvesBelow quarter.le
    linarith
  exact isDouble.isNearest positive nearLow.le (by linarith) (.inr ⟨nearLow, by linarith⟩)

omit positive in
theorem readsBack_of_search {leading : ℤ} {found : ShortDecimal} {count fuel : ℕ}
    (isFound : search number leading count fuel = some found) :
    found.readsBack (basin number) = true := by
  induction fuel generalizing count with
  | zero => cases isFound
  | succ fuel ih =>
      rw [search] at isFound
      split at isFound
      · rename_i isHead
        cases isFound
        have mem : found ∈ candidates number (leading + count) := by
          rw [isHead]
          exact List.mem_cons_self
        exact (List.mem_filter.mp mem).2
      · exact ih isFound

end

/-- A number is the nearest one to its shortest decimal. -/
theorem isNearest_ofDyadic {number : Dyadic} (isDouble : number.IsDouble) :
    number.IsNearest (ofDyadic number).toRat := by
  rw [ofDyadic]
  split
  · rename_i isZero
    have exact : toRat ⟨0, 0⟩ = number.toRat := by
      simp [toRat, Dyadic.toRat, isZero]
    rw [exact]
    constructor
    · intro other _
      simp
    · intro other _ _ _
      simp [isZero]
  · rename_i notZero
    have positive : 0 < number.significand := Nat.pos_of_ne_zero notZero
    simp only
    cases isFound : search number (leadingPlaces number.numerator number.denominator) 0 17 with
    | some found =>
        exact isNearest_of_readsBack positive isDouble (readsBack_of_search isFound)
    | none => exact isNearest_scaledFloor positive isDouble rfl

end ShortDecimal

/-! ## Texts of floating-point numbers -/

namespace Binary64

/-- Whether a number is a floating-point number of 64 bits. -/
def IsDouble : Binary64 → Prop
  | .finite _ magnitude => magnitude.IsDouble
  | .infinite _ | .undefined => True

/-- The texts from which a number can be had back: a numeral to which its magnitude is nearest, with
a sign if it is negative, or the name of a number that is not finite. -/
inductive SpelledBy : Binary64 → String → Prop where
  | positive {magnitude : Dyadic} {numeral : String} {exact : ℚ}
      (spells : Decimal.Spells numeral.toList exact) (nearest : magnitude.IsNearest exact) :
      SpelledBy (.finite false magnitude) numeral
  | negative {magnitude : Dyadic} {numeral : String} {exact : ℚ}
      (spells : Decimal.Spells numeral.toList exact) (nearest : magnitude.IsNearest exact) :
      SpelledBy (.finite true magnitude) ("-" ++ numeral)
  | infinite : SpelledBy (.infinite false) "inf"
  | negativeInfinite : SpelledBy (.infinite true) "-inf"
  | undefined : SpelledBy .undefined "NaN"

/-- The number can be had back from its text. -/
theorem spelledBy_text {number : Binary64} (isDouble : number.IsDouble) :
    number.SpelledBy number.text := by
  cases number with
  | finite negative magnitude =>
      have spells := (ShortDecimal.ofDyadic magnitude).spells_text
      have nearest := ShortDecimal.isNearest_ofDyadic isDouble
      cases negative with
      | false =>
          have unsigned : text (.finite false magnitude) =
              (ShortDecimal.ofDyadic magnitude).text := String.empty_append
          rw [unsigned]
          exact .positive spells nearest
      | true => exact .negative spells nearest
  | infinite negative =>
      cases negative with
      | false => exact .infinite
      | true => exact .negativeInfinite
  | undefined => exact .undefined

end Binary64

end RangeServer
