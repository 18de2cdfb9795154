import Mathlib
import RangeServer.Json.Number
import RangeServer.Proofs.ShortestDecimals
import RangeServer.Toml.Scalar

/-!
# Rounded numbers

A floating-point number is rounded from an exact quotient. What comes of it is kept in the way of
binary floating point, and nothing that is so kept is nearer to the quotient:
`Dyadic.isDouble_of_nearest?` and `Dyadic.isNearest_of_nearest?`.

The quotient is measured in units of a power of two, so that it is 53 bits many of them unless the
unit is the least. The count is then rounded to a natural number, and what was said of the quotient
holds of the count but for half a unit.

So the numbers that settings files hold are floating-point numbers of 64 bits, whether they are
rounded once, as those of TOML are, or several times, as those of JSON are.
-/

namespace RangeServer

/-! ## Units -/

namespace Dyadic

theorem twoTo_pos (exponent : ℕ) : 0 < twoTo exponent := Nat.pow_pos (by decide)

/-- Whether a number is counted in units of a power of two when it is rounded: there are 53 bits of
them, unless the unit is the least. -/
structure FitsUnit (exact : ℚ) (exponent : ℤ) : Prop where
  aboveLeast : -1074 ≤ exponent
  small : exact < 2 ^ 53 * 2 ^ exponent
  normal : exponent = -1074 ∨ 2 ^ 52 * 2 ^ exponent ≤ exact

section

variable {numerator denominator : ℕ}

/-- Whether a quotient reaches a power of two, told on natural numbers. -/
theorem zpow_le_div_iff (denominatorPos : 0 < denominator) (exponent : ℤ) :
    (2 : ℚ) ^ exponent ≤ (numerator : ℚ) / denominator ↔
      denominator * twoTo exponent.toNat ≤ numerator * twoTo (-exponent).toNat := by
  have below : (0 : ℚ) < (twoTo (-exponent).toNat : ℕ) := by exact_mod_cast twoTo_pos _
  have under : (0 : ℚ) < (denominator : ℕ) := by exact_mod_cast denominatorPos
  rw [zpow_eq_pow_div_pow two_ne_zero, ← cast_twoTo, ← cast_twoTo, div_le_div_iff₀ below under,
    mul_comm (denominator : ℕ)]
  exact_mod_cast Iff.rfl

/-- A quotient in units of a power of two. -/
theorem scaled_eq (exponent : ℤ) :
    ((numerator * twoTo (-exponent).toNat : ℕ) : ℚ) / (denominator * twoTo exponent.toNat : ℕ) =
      (numerator : ℚ) / denominator / 2 ^ exponent := by
  rw [zpow_eq_pow_div_pow two_ne_zero, div_div_div_eq, Nat.cast_mul, Nat.cast_mul, cast_twoTo,
    cast_twoTo]

/-- The highest bit of a quotient: the quotient reaches its power of two and not the next. -/
theorem highestBit_bounds (numeratorPos : 0 < numerator) (denominatorPos : 0 < denominator) :
    (2 : ℚ) ^ highestBit numerator denominator ≤ (numerator : ℚ) / denominator ∧
      (numerator : ℚ) / denominator < 2 ^ (highestBit numerator denominator + 1) := by
  have under : (0 : ℚ) < (denominator : ℕ) := by exact_mod_cast denominatorPos
  have numeratorLow : (2 : ℚ) ^ (numerator.log2 : ℤ) ≤ numerator := by
    exact_mod_cast Nat.log2_self_le numeratorPos.ne'
  have numeratorHigh : (numerator : ℚ) < 2 ^ (numerator.log2 + 1 : ℤ) := by
    exact_mod_cast Nat.lt_log2_self
  have denominatorLow : (2 : ℚ) ^ (denominator.log2 : ℤ) ≤ denominator := by
    exact_mod_cast Nat.log2_self_le denominatorPos.ne'
  have denominatorHigh : (denominator : ℚ) < 2 ^ (denominator.log2 + 1 : ℤ) := by
    exact_mod_cast Nat.lt_log2_self
  rw [highestBit]
  generalize (numerator.log2 : ℤ) = top at *
  generalize (denominator.log2 : ℤ) = bottom at *
  have low : (2 : ℚ) ^ (top - bottom - 1) ≤ (numerator : ℚ) / denominator := by
    rw [le_div_iff₀ under]
    calc (2 : ℚ) ^ (top - bottom - 1) * denominator
        ≤ 2 ^ (top - bottom - 1) * 2 ^ (bottom + 1) :=
          mul_le_mul_of_nonneg_left denominatorHigh.le (by positivity)
      _ = 2 ^ top := by
          rw [← zpow_add₀ two_ne_zero]
          congr 1
          omega
      _ ≤ numerator := numeratorLow
  have high : (numerator : ℚ) / denominator < 2 ^ (top - bottom + 1) := by
    rw [div_lt_iff₀ under]
    calc (numerator : ℚ) < 2 ^ (top + 1) := numeratorHigh
      _ = 2 ^ (top - bottom + 1) * 2 ^ bottom := by
          rw [← zpow_add₀ two_ne_zero]
          congr 1
          omega
      _ ≤ 2 ^ (top - bottom + 1) * denominator :=
          mul_le_mul_of_nonneg_left denominatorLow (by positivity)
  split
  · rename_i less
    have notReached : (numerator : ℚ) / denominator < 2 ^ (top - bottom) :=
      not_le.mp (mt (zpow_le_div_iff denominatorPos _).mp (not_le.mpr less))
    exact ⟨low, by simpa using notReached⟩
  · rename_i notLess
    exact ⟨(zpow_le_div_iff denominatorPos _).mpr (not_lt.mp notLess), high⟩

theorem fitsUnit_of_highestBit (numeratorPos : 0 < numerator) (denominatorPos : 0 < denominator) :
    FitsUnit ((numerator : ℚ) / denominator)
      (max (highestBit numerator denominator - 52) (-1074)) := by
  rcases highestBit_bounds numeratorPos denominatorPos with ⟨reached, notPassed⟩
  generalize highestBit numerator denominator = highest at *
  refine ⟨le_max_right _ _, ?_, ?_⟩
  · rw [← zpow_natCast, ← zpow_add₀ two_ne_zero]
    exact notPassed.trans_le (zpow_le_zpow_right₀ one_le_two (by omega))
  · rcases le_or_gt (highest - 52) (-1074) with isLeast | isAbove
    · exact .inl (max_eq_right isLeast)
    · right
      rw [max_eq_left isAbove.le, ← zpow_natCast, ← zpow_add₀ two_ne_zero]
      simpa using reached

/-! ## Rounding the count -/

/-- Whether a natural number is nearest to an exact one, the even one of two that are equally
near. -/
structure IsRounded (exact : ℚ) (count : ℕ) : Prop where
  low : (count : ℚ) - 1 / 2 ≤ exact
  high : exact ≤ count + 1 / 2
  even : Even count ∨ (count : ℚ) - 1 / 2 < exact ∧ exact < count + 1 / 2

theorem isRounded_halfEven (denominatorPos : 0 < denominator) :
    IsRounded ((numerator : ℚ) / denominator) (Rounding.halfEven numerator denominator) := by
  have under : (0 : ℚ) < (denominator : ℕ) := by exact_mod_cast denominatorPos
  have division : (denominator : ℚ) * (numerator / denominator : ℕ) +
      (numerator % denominator : ℕ) = numerator := by
    exact_mod_cast Nat.div_add_mod numerator denominator
  have restNonneg : (0 : ℚ) ≤ (numerator % denominator : ℕ) := Nat.cast_nonneg _
  have restLt : ((numerator % denominator : ℕ) : ℚ) < denominator := by
    exact_mod_cast Nat.mod_lt _ denominatorPos
  have isRounded : ∀ count : ℕ, (count - 1 / 2) * (denominator : ℚ) ≤ numerator →
      (numerator : ℚ) ≤ (count + 1 / 2) * denominator →
      (Even count ∨ (count - 1 / 2) * (denominator : ℚ) < numerator ∧
        (numerator : ℚ) < (count + 1 / 2) * denominator) →
      IsRounded ((numerator : ℚ) / denominator) count := by
    intro count low high even
    rw [← le_div_iff₀ under] at low
    rw [← div_le_iff₀ under] at high
    rw [← lt_div_iff₀ under, ← div_lt_iff₀ under] at even
    exact ⟨low, high, even⟩
  unfold Rounding.halfEven
  dsimp only
  generalize numerator / denominator = floor at *
  generalize numerator % denominator = rest at *
  rcases lt_trichotomy (2 * rest) denominator with less | half | more
  · have isLess : (2 * rest : ℚ) < denominator := by exact_mod_cast less
    rw [if_pos less]
    exact isRounded _ (by linarith) (by linarith) (.inr ⟨by linarith, by linarith⟩)
  · have isHalf : (2 * rest : ℚ) = denominator := by exact_mod_cast half
    rw [if_neg half.not_lt, if_neg half.not_gt]
    rcases Nat.mod_two_eq_zero_or_one floor with even | odd
    · rw [even]
      exact isRounded _ (by push_cast; linarith) (by push_cast; linarith)
        (.inl (Nat.even_iff.mpr even))
    · rw [odd]
      exact isRounded _ (by push_cast; linarith) (by push_cast; linarith)
        (.inl (Nat.even_add_one.mpr (Nat.not_even_iff.mpr odd)))
  · have isMore : (denominator : ℚ) < 2 * rest := by exact_mod_cast more
    rw [if_neg more.not_gt, if_pos more]
    exact isRounded _ (by push_cast; linarith) (by push_cast; linarith)
      (.inr ⟨by push_cast; linarith, by push_cast; linarith⟩)

end

/-! ## The rounded number -/

/-- A count of units as a number: if rounding has led to one bit more, the next unit is taken. -/
def ofCount (count : ℕ) (exponent : ℤ) : Dyadic :=
  if count = twoTo 53 then ⟨twoTo 52, exponent + 1⟩ else ⟨count, exponent⟩

theorem toRat_ofCount (count : ℕ) (exponent : ℤ) :
    (ofCount count exponent).toRat = count * 2 ^ exponent := by
  rw [ofCount]
  split
  · rename_i isNext
    rw [isNext, toRat, zpow_add_one₀ two_ne_zero]
    norm_num [twoTo]
    ring
  · rfl

section

variable {exact : ℚ} {exponent : ℤ} {count : ℕ}

theorem FitsUnit.count_bounds (fitsUnit : FitsUnit exact exponent)
    (isRounded : IsRounded (exact / 2 ^ exponent) count) :
    count ≤ 2 ^ 53 ∧ (exponent = -1074 ∨ 2 ^ 52 ≤ count) := by
  have unit : (0 : ℚ) < 2 ^ exponent := by positivity
  constructor
  · have small : exact / 2 ^ exponent < 2 ^ 53 := (div_lt_iff₀ unit).mpr fitsUnit.small
    have low := isRounded.low
    have lt : (count : ℚ) < (2 ^ 53 + 1 : ℕ) := by
      push_cast
      linarith
    exact Nat.lt_succ_iff.mp (by exact_mod_cast lt)
  · refine fitsUnit.normal.imp_right fun normal => ?_
    have large : 2 ^ 52 ≤ exact / 2 ^ exponent := (le_div_iff₀ unit).mpr normal
    have high := isRounded.high
    have lt : ((2 ^ 52 : ℕ) : ℚ) < (count + 1 : ℕ) := by
      push_cast
      linarith
    exact Nat.lt_succ_iff.mp (by exact_mod_cast lt)

theorem FitsUnit.isDouble_ofCount (fitsUnit : FitsUnit exact exponent)
    (isRounded : IsRounded (exact / 2 ^ exponent) count) : (ofCount count exponent).IsDouble := by
  rcases fitsUnit.count_bounds isRounded with ⟨atMost, normal⟩
  have aboveLeast := fitsUnit.aboveLeast
  rw [ofCount]
  split
  · have fits : twoTo 52 < 2 ^ 53 := by decide
    exact ⟨fits, by dsimp only; omega, .inr (.inl le_rfl)⟩
  · rename_i notNext
    have notLargest : count ≠ 2 ^ 53 := notNext
    exact ⟨by dsimp only; omega, aboveLeast, .inr normal.symm⟩

theorem isDouble_zero : zero.IsDouble := ⟨by decide, by decide, .inl rfl⟩

/-- Nothing is nearer to what is at most half of the least number than zero. -/
theorem isNearest_zero {number : Dyadic} (isZero : number.significand = 0)
    (nonneg : 0 ≤ exact) (high : exact ≤ 2 ^ (-1074 : ℤ) / 2) : number.IsNearest exact := by
  have isNought : number.toRat = 0 := by simp [toRat, isZero]
  refine ⟨?_, fun _ _ _ _ => by simp [isZero]⟩
  intro other isDouble
  rw [isNought, sub_zero, abs_of_nonneg nonneg]
  rcases Nat.eq_zero_or_pos other.significand with alsoZero | positive
  · simp [toRat, alsoZero, abs_of_nonneg nonneg]
  · have atLeast : (2 : ℚ) ^ (-1074 : ℤ) ≤ other.toRat := by
      have one : (1 : ℚ) ≤ other.significand := by exact_mod_cast positive
      calc (2 : ℚ) ^ (-1074 : ℤ) ≤ 2 ^ other.exponent :=
            zpow_le_zpow_right₀ one_le_two isDouble.aboveLeast
        _ ≤ other.toRat := by
            rw [toRat]
            exact le_mul_of_one_le_left (by positivity) one
    rw [abs_sub_comm]
    exact le_abs.mpr (.inl (by linarith))

/-- A count that is a number of its own: half a unit away on both sides, and not below a power of
two. -/
theorem FitsUnit.isNearest_mk (fitsUnit : FitsUnit exact exponent)
    (isRounded : IsRounded (exact / 2 ^ exponent) count) (positive : 0 < count)
    (isDouble : IsDouble ⟨count, exponent⟩) : IsNearest ⟨count, exponent⟩ exact := by
  have unit : (0 : ℚ) < 2 ^ exponent := by positivity
  rcases isRounded with ⟨low, high, even⟩
  rw [le_div_iff₀ unit] at low
  rw [div_le_iff₀ unit] at high
  rw [lt_div_iff₀ unit, div_lt_iff₀ unit] at even
  have value : toRat ⟨count, exponent⟩ = count * 2 ^ exponent := rfl
  have isHigh : exact ≤ toRat ⟨count, exponent⟩ + 2 ^ exponent / 2 := by linarith
  by_cases isPower : count = 2 ^ 52 ∧ -1074 < exponent
  · have halves : halvesBelow ⟨count, exponent⟩ = 1 := if_pos isPower
    have reached : toRat ⟨count, exponent⟩ ≤ exact := by
      have notLeast : exponent ≠ -1074 := by omega
      rw [value, isPower.1]
      exact_mod_cast fitsUnit.normal.resolve_left notLeast
    have even : Even count := isPower.1 ▸ by decide
    exact isDouble.isNearest positive (by rw [halves]; linarith) isHigh (.inl even)
  · have halves : halvesBelow ⟨count, exponent⟩ = 2 := if_neg isPower
    refine isDouble.isNearest positive (by rw [halves]; linarith) isHigh ?_
    refine even.imp_right fun strict => ?_
    rw [halves]
    exact ⟨by linarith [strict.1], by linarith [strict.2]⟩

theorem FitsUnit.isNearest_ofCount (fitsUnit : FitsUnit exact exponent) (nonneg : 0 ≤ exact)
    (isRounded : IsRounded (exact / 2 ^ exponent) count) :
    (ofCount count exponent).IsNearest exact := by
  have unit : (0 : ℚ) < 2 ^ exponent := by positivity
  have isDouble := fitsUnit.isDouble_ofCount isRounded
  have value := toRat_ofCount count exponent
  have normal := (fitsUnit.count_bounds isRounded).2
  have low := (le_div_iff₀ unit).mp isRounded.low
  have high := (div_le_iff₀ unit).mp isRounded.high
  unfold ofCount at isDouble value ⊢
  split
  · rename_i isNext
    rw [if_pos isNext] at isDouble value
    have doubled : (2 : ℚ) ^ (exponent + 1) = 2 * 2 ^ exponent := by
      rw [zpow_add_one₀ two_ne_zero, mul_comm]
    have halves := mul_le_mul_of_nonneg_right (one_le_halvesBelow ⟨twoTo 52, exponent + 1⟩)
      unit.le
    have even : Even (twoTo 52) := by decide
    exact isDouble.isNearest (twoTo_pos _) (by rw [doubled]; linarith)
      (by rw [doubled]; linarith) (.inl even)
  · rename_i notNext
    rw [if_neg notNext] at isDouble
    rcases Nat.eq_zero_or_pos count with isZero | positive
    · have isLeast : exponent = -1074 := normal.resolve_right (by omega)
      have atMost : exact ≤ 2 ^ exponent / 2 := by
        rw [isZero] at high
        linarith
      exact isNearest_zero isZero nonneg (isLeast ▸ atMost)
    · exact fitsUnit.isNearest_mk isRounded positive isDouble

theorem FitsUnit.le_of_lt_ofCount (fitsUnit : FitsUnit exact exponent)
    (isRounded : IsRounded (exact / 2 ^ exponent) count)
    (beyond : 971 < (ofCount count exponent).exponent) :
    (2 ^ 53 - 1 / 2) * 2 ^ (971 : ℤ) ≤ exact := by
  have unit : (0 : ℚ) < 2 ^ exponent := by positivity
  have largest : (0 : ℚ) < 2 ^ (971 : ℤ) := by positivity
  rw [ofCount] at beyond
  split at beyond
  · rename_i isNext
    have isCount : (count : ℚ) = 2 ^ 53 := by exact_mod_cast isNext
    have low := (le_div_iff₀ unit).mp isRounded.low
    rw [isCount] at low
    have powers : (2 : ℚ) ^ (971 : ℤ) ≤ 2 ^ exponent :=
      zpow_le_zpow_right₀ one_le_two (Int.lt_add_one_iff.mp beyond)
    linarith
  · have notLeast : exponent ≠ -1074 := by
      rintro rfl
      cases beyond
    have normal := fitsUnit.normal.resolve_left notLeast
    have powers : (2 : ℚ) ^ (971 : ℤ) * 2 ≤ 2 ^ exponent := by
      rw [← zpow_add_one₀ two_ne_zero]
      exact zpow_le_zpow_right₀ one_le_two beyond
    calc (2 ^ 53 - 1 / 2) * (2 : ℚ) ^ (971 : ℤ)
        ≤ 2 ^ 53 * 2 ^ (971 : ℤ) := mul_le_mul_of_nonneg_right (by norm_num) largest.le
      _ = 2 ^ 52 * (2 ^ (971 : ℤ) * 2) := by ring
      _ ≤ 2 ^ 52 * 2 ^ exponent := mul_le_mul_of_nonneg_left powers (by positivity)
      _ ≤ exact := normal

end

/-! ## Rounded quotients -/

section

variable {numerator denominator : ℕ} (denominatorPos : 0 < denominator)

include denominatorPos

/-- A quotient of positive numbers is counted in units, and the count is rounded. -/
theorem exists_ofCount (numeratorPos : 0 < numerator) :
    ∃ (exponent : ℤ) (count : ℕ), FitsUnit ((numerator : ℚ) / denominator) exponent ∧
      IsRounded ((numerator : ℚ) / denominator / 2 ^ exponent) count ∧
      nearest? numerator denominator =
        if 971 < (ofCount count exponent).exponent then none
        else some (ofCount count exponent) := by
  refine ⟨_, _, fitsUnit_of_highestBit numeratorPos denominatorPos, ?_, if_neg numeratorPos.ne'⟩
  rw [← scaled_eq]
  exact isRounded_halfEven (Nat.mul_pos denominatorPos (twoTo_pos _))

/-- Rounding gives a number that is kept in the way of binary floating point, and nothing that is
so kept is nearer. -/
theorem isDouble_and_isNearest_of_nearest? {rounded : Dyadic}
    (isRounded : nearest? numerator denominator = some rounded) :
    rounded.IsDouble ∧ rounded.IsNearest ((numerator : ℚ) / denominator) := by
  rcases Nat.eq_zero_or_pos numerator with isZero | numeratorPos
  · rw [nearest?, if_pos isZero] at isRounded
    cases isRounded
    refine ⟨isDouble_zero, isNearest_zero rfl (by positivity) ?_⟩
    rw [isZero, Nat.cast_zero, zero_div]
    positivity
  · rcases exists_ofCount denominatorPos numeratorPos with ⟨exponent, count, fitsUnit, counted, eq⟩
    rw [eq] at isRounded
    split at isRounded
    · cases isRounded
    · cases isRounded
      exact ⟨fitsUnit.isDouble_ofCount counted, fitsUnit.isNearest_ofCount (by positivity) counted⟩

/-- What is past the largest number is past it by half a unit at least. -/
theorem le_of_nearest?_eq_none (tooLarge : nearest? numerator denominator = none) :
    (2 ^ 53 - 1 / 2) * 2 ^ (971 : ℤ) ≤ (numerator : ℚ) / denominator := by
  rcases Nat.eq_zero_or_pos numerator with isZero | numeratorPos
  · rw [nearest?, if_pos isZero] at tooLarge
    cases tooLarge
  · rcases exists_ofCount denominatorPos numeratorPos with ⟨exponent, count, fitsUnit, counted, eq⟩
    rw [eq] at tooLarge
    split at tooLarge
    · rename_i beyond
      exact fitsUnit.le_of_lt_ofCount counted beyond
    · cases tooLarge

end

/-- What is at least one is not rounded to zero, since one is nearer. -/
theorem IsNearest.significand_pos {number : Dyadic} {exact : ℚ} (isNearest : number.IsNearest exact)
    (one_le : 1 ≤ exact) : 0 < number.significand := by
  by_contra notPos
  have isNought : number.toRat = 0 := by simp [toRat, Nat.eq_zero_of_not_pos notPos]
  have isOne : toRat ⟨2 ^ 52, -52⟩ = 1 := by norm_num [toRat]
  have le := isNearest.le ⟨2 ^ 52, -52⟩ ⟨by decide, by decide, .inr (.inl le_rfl)⟩
  rw [isNought, isOne, sub_zero, abs_of_nonneg (by linarith), abs_of_nonneg (by linarith)] at le
  linarith

end Dyadic

/-! ## Decimal numerals -/

namespace Binary64

/-- The bound past which numbers are infinite, as a quotient. -/
theorem infiniteBound_eq :
    ((2 : ℚ) ^ 53 - 1 / 2) * 2 ^ (971 : ℤ) = ((2 ^ 54 - 1) * 2 ^ 971 : ℕ) / 2 := by
  have power : (971 : ℤ) = (971 : ℕ) := rfl
  rw [power, zpow_natCast]
  generalize 971 = exponent
  push_cast
  ring

/-- How an exact number of either sign is rounded: to a nearest number, or to infinity past the
largest. -/
inductive Rounds (negative : Bool) (exact : ℚ) : Binary64 → Prop where
  | finite {magnitude : Dyadic} (isDouble : magnitude.IsDouble)
      (isNearest : magnitude.IsNearest exact) : Rounds negative exact (.finite negative magnitude)
  | infinite (le : (2 ^ 53 - 1 / 2) * 2 ^ (971 : ℤ) ≤ exact) :
      Rounds negative exact (.infinite negative)

theorem Rounds.isDouble {negative : Bool} {exact : ℚ} {number : Binary64}
    (rounds : Rounds negative exact number) : number.IsDouble := by
  cases rounds with
  | finite isDouble isNearest => exact isDouble
  | infinite le => exact trivial

theorem rounds_ofQuotient (negative : Bool) {numerator denominator : ℕ}
    (denominatorPos : 0 < denominator) :
    Rounds negative ((numerator : ℚ) / denominator)
      (ofQuotient negative numerator denominator) := by
  rw [ofQuotient]
  cases isRounded : Dyadic.nearest? numerator denominator with
  | some magnitude =>
      rcases Dyadic.isDouble_and_isNearest_of_nearest? denominatorPos isRounded with
        ⟨isDouble, isNearest⟩
      exact .finite isDouble isNearest
  | none => exact .infinite (Dyadic.le_of_nearest?_eq_none denominatorPos isRounded)

/-- Zero, where it is nearest. -/
theorem rounds_zero (negative : Bool) {exact : ℚ} (nonneg : 0 ≤ exact)
    (high : exact ≤ 2 ^ (-1074 : ℤ) / 2) : Rounds negative exact (.finite negative .zero) :=
  .finite Dyadic.isDouble_zero (Dyadic.isNearest_zero rfl nonneg high)

/-- A decimal numeral is rounded from what it denotes, however far out its exponent is. -/
theorem rounds_ofDecimal (negative : Bool) (significand : ℕ) (exponent : ℤ) :
    Rounds negative (significand * 10 ^ exponent) (ofDecimal negative significand exponent) := by
  have scale : (0 : ℚ) < 10 ^ exponent := by positivity
  unfold ofDecimal
  split
  · rename_i isZero
    rw [isZero, Nat.cast_zero, zero_mul]
    exact rounds_zero negative le_rfl (by positivity)
  · rename_i notZero
    have one : (1 : ℚ) ≤ significand := by exact_mod_cast Nat.pos_of_ne_zero notZero
    split
    · rename_i large
      have bound : (2 ^ 54 - 1) * 2 ^ 971 ≤ 10 ^ 401 := by decide +kernel
      apply Rounds.infinite
      calc ((2 : ℚ) ^ 53 - 1 / 2) * 2 ^ (971 : ℤ) ≤ ((2 ^ 54 - 1) * 2 ^ 971 : ℕ) := by
            rw [infiniteBound_eq]
            exact half_le_self (Nat.cast_nonneg _)
        _ ≤ (10 ^ 401 : ℕ) := Nat.cast_le.mpr bound
        _ = (10 : ℚ) ^ (401 : ℤ) := Nat.cast_pow 10 401
        _ ≤ 10 ^ exponent := zpow_le_zpow_right₀ (by norm_num) large
        _ ≤ significand * 10 ^ exponent := le_mul_of_one_le_left scale.le one
    · split
      · rename_i notLarge small
        have bound : 2 ^ 1075 ≤ 10 ^ 400 := by decide +kernel
        have fits : (significand : ℚ) ≤ 10 ^ ((Decimal.digits significand).length : ℤ) := by
          exact_mod_cast (Decimal.lt_ten_pow_length significand).le
        refine rounds_zero negative (by positivity) ?_
        calc significand * (10 : ℚ) ^ exponent
            ≤ 10 ^ ((Decimal.digits significand).length : ℤ) * 10 ^ exponent :=
              mul_le_mul_of_nonneg_right fits scale.le
          _ = 10 ^ ((Decimal.digits significand).length + exponent) :=
              (zpow_add₀ (by norm_num) _ _).symm
          _ ≤ 10 ^ (-(400 : ℕ) : ℤ) :=
              zpow_le_zpow_right₀ (by norm_num) (by rw [Decimal.digits]; omega)
          _ ≤ 2 ^ (-(1075 : ℕ) : ℤ) := by
              rw [zpow_neg, zpow_neg, zpow_natCast, zpow_natCast]
              exact inv_anti₀ (by positivity) (by exact_mod_cast bound)
          _ = 2 ^ (-1074 : ℤ) / 2 := zpow_sub_one₀ two_ne_zero (-1074)
      · have unit : 0 < tenTo (-exponent).toNat := Nat.pow_pos (by decide)
        have exact := ShortDecimal.toRat_eq ⟨significand, -exponent⟩
        rw [ShortDecimal.toRat, zpow_neg, div_inv_eq_mul, neg_neg] at exact
        rw [exact]
        exact rounds_ofQuotient negative unit

end Binary64

/-! ## Settings files -/

namespace TomlScalar

/-- A number is rounded once, from all its digits and its exponent. -/
theorem rounds_of_realOf? {negative : Bool} {whole : List Char} {fraction : Option (List Char)}
    {exponent : Option ℤ} {value : Binary64}
    (isRead : realOf? negative whole fraction exponent = some (.real value)) :
    Binary64.Rounds negative
      (Decimal.value (whole ++ fraction.getD []) *
        10 ^ (exponent.getD 0 - (fraction.getD []).length)) value := by
  rw [realOf?] at isRead
  split at isRead
  · cases isRead
  · cases isRead
    exact Binary64.rounds_ofDecimal _ _ _

theorem isDouble_of_specialReal {negative : Bool} {text rest : List Char} {value : Binary64}
    (isRead : specialReal negative text = some (.real value, rest)) : value.IsDouble := by
  unfold specialReal at isRead
  split at isRead <;> cases isRead <;> exact trivial

/-- The numbers that TOML texts hold are floating-point numbers of 64 bits. -/
theorem isDouble_of_real {text rest : List Char} {value : Binary64}
    (isRead : real text = some (.real value, rest)) : value.IsDouble := by
  unfold real at isRead
  dsimp only at isRead
  split at isRead
  · rename_i isSpecial
    cases isRead
    exact isDouble_of_specialReal isSpecial
  · simp only [Option.bind_eq_bind, Option.bind_eq_some_iff, Option.pure_def] at isRead
    rcases isRead with ⟨⟨whole, _⟩, -, ⟨places, _⟩, -, ⟨exponent, _⟩, -, isRead⟩
    split at isRead
    · cases isRead
    · rcases Option.bind_eq_some_iff.mp isRead with ⟨found, isFound, isPair⟩
      cases isPair
      exact (rounds_of_realOf? isFound).isDouble

end TomlScalar

namespace LeadingDigits

/-- A power of ten that is not past the largest number is rounded to a number that one can divide
by. -/
theorem tenPower_divides {exponent : ℕ} (le : exponent ≤ 308) :
    (tenPower exponent).IsDouble ∧ 0 < (tenPower exponent).significand := by
  have bound : 2 * 10 ^ 308 < (2 ^ 54 - 1) * 2 ^ 971 := by decide +kernel
  have exact : ((tenTo exponent : ℕ) : ℚ) / (1 : ℕ) = 10 ^ exponent := by
    rw [cast_tenTo, Nat.cast_one, div_one]
  rw [tenPower]
  cases isRounded : Dyadic.nearest? (tenTo exponent) 1 with
  | some power =>
      rcases Dyadic.isDouble_and_isNearest_of_nearest? one_pos isRounded with
        ⟨isDouble, isNearest⟩
      rw [exact] at isNearest
      exact ⟨isDouble, isNearest.significand_pos (one_le_pow₀ (by norm_num))⟩
  | none =>
      have beyond := Dyadic.le_of_nearest?_eq_none one_pos isRounded
      rw [exact, Binary64.infiniteBound_eq, div_le_iff₀ two_pos] at beyond
      have within : (10 : ℚ) ^ exponent ≤ (10 ^ 308 : ℕ) := by
        rw [Nat.cast_pow]
        exact pow_le_pow_right₀ (by norm_num) le
      have casted : ((2 * 10 ^ 308 : ℕ) : ℚ) < ((2 ^ 54 - 1) * 2 ^ 971 : ℕ) := Nat.cast_lt.mpr bound
      rw [Nat.cast_mul] at casted
      generalize (((2 ^ 54 - 1) * 2 ^ 971 : ℕ) : ℚ) = largest at *
      generalize ((10 ^ 308 : ℕ) : ℚ) = power at *
      push_cast at casted
      linarith

theorem isDouble_quotient {number divisor : Dyadic} (positive : 0 < divisor.significand) :
    (quotient number divisor).IsDouble := by
  have denominatorPos : 0 < number.denominator * divisor.numerator :=
    Nat.mul_pos number.denominator_pos (Nat.mul_pos positive (Dyadic.twoTo_pos _))
  rw [quotient]
  cases isRounded : Dyadic.nearest? (number.numerator * divisor.denominator)
      (number.denominator * divisor.numerator) with
  | some rounded => exact (Dyadic.isDouble_and_isNearest_of_nearest? denominatorPos isRounded).1
  | none => exact Dyadic.isDouble_zero

theorem isDouble_divideByTenPower (number : Dyadic) (exponent : ℕ) :
    (divideByTenPower number exponent).IsDouble := by
  fun_induction divideByTenPower number exponent with
  | case1 number exponent le => exact isDouble_quotient (tenPower_divides le).2
  | case2 number exponent _ smaller => exact isDouble_quotient (tenPower_divides le_rfl).2
  | case3 number exponent _ smaller _ ih => exact ih

theorem isDouble_of_timesTenPower? {number product : Dyadic} {exponent : ℕ}
    (isProduct : timesTenPower? number exponent = some product) : product.IsDouble := by
  rw [timesTenPower?] at isProduct
  split at isProduct
  · cases isProduct
    exact Dyadic.isDouble_zero
  · split at isProduct
    · cases isProduct
    · have denominatorPos : 0 < number.denominator * (tenPower exponent).denominator :=
        Nat.mul_pos number.denominator_pos (Dyadic.denominator_pos _)
      exact (Dyadic.isDouble_and_isNearest_of_nearest? denominatorPos isProduct).1

theorem isDouble_of_real? {negative : Bool} {taken : LeadingDigits} {value : Binary64}
    (isRead : taken.real? negative = some value) : value.IsDouble := by
  simp only [real?, Option.bind_eq_bind, Option.bind_eq_some_iff, Option.pure_def] at isRead
  rcases isRead with ⟨number, -, isRead⟩
  split at isRead
  · cases isRead
    exact isDouble_divideByTenPower _ _
  · rcases Option.bind_eq_some_iff.mp isRead with ⟨product, isProduct, isValue⟩
    cases isValue
    exact isDouble_of_timesTenPower? isProduct

end LeadingDigits

/-- The numbers that JSON texts hold are floating-point numbers of 64 bits. -/
theorem Numeral.isDouble_of_value? {numeral : Numeral} {value : Binary64}
    (isRead : numeral.value? = some (.real value)) : value.IsDouble := by
  rw [value?] at isRead
  split at isRead
  · cases isRead
  · rcases Option.map_eq_some_iff.mp isRead with ⟨value, isReal, isValue⟩
    cases isValue
    rw [real?] at isReal
    split at isReal
    · exact LeadingDigits.isDouble_of_real? isReal
    · dsimp only at isReal
      split at isReal
      · split at isReal
        · cases isReal
        · cases isReal
          exact Dyadic.isDouble_zero
      · exact LeadingDigits.isDouble_of_real? isReal

end RangeServer
