import RangeServer.Number.Powers
import RangeServer.Number.Rounding

/-!
# Binary floating point

Numbers with 53 significant bits and exponents from -1074 to 971, infinities and the result of
undefined operations. Results are rounded from the exact quotient: to the nearest number, of two
equally near ones to the one with the even significand, and to infinity past the largest.
-/

namespace RangeServer

/-- The number `significand * 2 ^ exponent`. -/
structure Dyadic where
  significand : Nat
  exponent : Int
  deriving DecidableEq, Repr

namespace Dyadic

/-- Zero. -/
def zero : Dyadic := ⟨0, 0⟩

/-- The numerator of a number written as a quotient. -/
def numerator (number : Dyadic) : Nat := number.significand * twoTo number.exponent.toNat

/-- The denominator of a number written as a quotient. -/
def denominator (number : Dyadic) : Nat := twoTo (-number.exponent).toNat

/-- The position of the highest bit of a quotient of positive numbers: the greatest power of two
that is not above it. -/
def highestBit (numerator denominator : Nat) : Int :=
  let guess : Int := (numerator.log2 : Int) - (denominator.log2 : Int)
  if numerator * twoTo (-guess).toNat < denominator * twoTo guess.toNat then guess - 1 else guess

/-- The representable number nearest to a quotient, if it is not past the largest. -/
def nearest? (numerator denominator : Nat) : Option Dyadic :=
  if numerator = 0 then some zero
  else
    let exponent := max (highestBit numerator denominator - 52) (-1074)
    let significand :=
      Rounding.halfEven (numerator * twoTo (-exponent).toNat)
        (denominator * twoTo exponent.toNat)
    let rounded : Dyadic :=
      if significand = twoTo 53 then ⟨twoTo 52, exponent + 1⟩ else ⟨significand, exponent⟩
    if 971 < rounded.exponent then none else some rounded

end Dyadic

/-- A floating-point number. -/
inductive Binary64 where
  | finite (negative : Bool) (magnitude : Dyadic)
  | infinite (negative : Bool)
  | undefined
  deriving DecidableEq, Repr

namespace Binary64

/-- The number nearest to a signed quotient. -/
def ofQuotient (negative : Bool) (numerator denominator : Nat) : Binary64 :=
  match Dyadic.nearest? numerator denominator with
  | some magnitude => .finite negative magnitude
  | none => .infinite negative

/-- The number nearest to a signed `significand * 10 ^ exponent`. Exponents so far out that the
result is certain are not carried out. -/
def ofDecimal (negative : Bool) (significand : Nat) (exponent : Int) : Binary64 :=
  if significand = 0 then .finite negative .zero
  else if 400 < exponent then .infinite negative
  else if exponent < -(400 + (Nat.toDigits 10 significand).length) then .finite negative .zero
  else ofQuotient negative (significand * tenTo exponent.toNat) (tenTo (-exponent).toNat)

/-- Whether a number is zero, of either sign. -/
def isZero : Binary64 → Bool
  | .finite _ magnitude => magnitude.significand == 0
  | _ => false

/-- The integer nearest to a number, a half going away from zero. -/
def roundAway (magnitude : Dyadic) : Nat :=
  (2 * magnitude.numerator + magnitude.denominator) / (2 * magnitude.denominator)

/-- The nearest integer between zero and a bound: beyond the bound the bound itself, below zero and
for the undefined zero. -/
def clampToNat (bound : Nat) : Binary64 → Nat
  | .finite true _ => 0
  | .finite false magnitude => min (roundAway magnitude) bound
  | .infinite true => 0
  | .infinite false => bound
  | .undefined => 0

end Binary64

end RangeServer
