import RangeServer.Json.Basic
import RangeServer.Number.Binary64
import RangeServer.Number.Powers
import RangeServer.Text.Decimal

/-!
# Numbers of JSON numerals

What a numeral denotes: an integer, if it has neither fraction nor exponent and 64 bits with a sign
hold it, and a floating-point number otherwise. The floating-point number is found in two rounded
steps. First come the leading digits that fit a 64-bit word, then one multiplication or division by
a power of ten for everything else. A numeral that leads past the largest number is refused.
-/

namespace RangeServer

/-- What a numeral denotes. -/
inductive NumeralValue where
  | integer (value : Int)
  | real (value : Binary64)
  deriving DecidableEq, Repr

/-- Digits taken so far: the word that they form, and the exponent of ten that belongs to it. -/
structure LeadingDigits where
  word : Nat
  exponent : Int
  deriving DecidableEq, Repr

namespace LeadingDigits

/-- The word with one digit more, if it is still a word. -/
def push? (word : Nat) (digit : Char) : Option Nat :=
  let longer := word * 10 + Decimal.digitValue digit
  if longer < Word.count64 then some longer else none

/-- Takes the digits before the point; a digit that does not fit and all after it count into the
exponent. -/
def takeWhole (word : Nat) : List Char → LeadingDigits
  | [] => ⟨word, 0⟩
  | digit :: rest =>
    match push? word digit with
    | some longer => takeWhole longer rest
    | none => ⟨word, (rest.length + 1 : Nat)⟩

/-- Takes the digits behind the point; a digit that does not fit and all after it are dropped. -/
def takeFraction : LeadingDigits → List Char → LeadingDigits
  | taken, [] => taken
  | taken, digit :: rest =>
    match push? taken.word digit with
    | some longer => takeFraction ⟨longer, taken.exponent - 1⟩ rest
    | none => taken

/-- The floating-point number nearest to a power of ten. -/
def tenPower (exponent : Nat) : Dyadic := (Dyadic.nearest? (tenTo exponent) 1).getD .zero

/-- The floating-point number nearest to a quotient of floating-point numbers that is not above
the first of them. -/
def quotient (number divisor : Dyadic) : Dyadic :=
  (Dyadic.nearest? (number.numerator * divisor.denominator)
    (number.denominator * divisor.numerator)).getD .zero

/-- The number divided by a power of ten in steps that a floating-point number can hold. -/
def divideByTenPower (number : Dyadic) (exponent : Nat) : Dyadic :=
  if exponent ≤ 308 then quotient number (tenPower exponent)
  else
    let smaller := quotient number (tenPower 308)
    if smaller.significand = 0 then smaller else divideByTenPower smaller (exponent - 308)
  termination_by exponent

/-- The number multiplied by a power of ten, if the product is not past the largest number. -/
def timesTenPower? (number : Dyadic) (exponent : Nat) : Option Dyadic :=
  if number.significand = 0 then some .zero
  else if 308 < exponent then none
  else
    let scale := tenPower exponent
    Dyadic.nearest? (number.numerator * scale.numerator) (number.denominator * scale.denominator)

/-- The number of taken digits, if it is not past the largest. -/
def real? (negative : Bool) (taken : LeadingDigits) : Option Binary64 := do
  let number ← Dyadic.nearest? taken.word 1
  if taken.exponent < 0 then
    return .finite negative (divideByTenPower number taken.exponent.natAbs)
  else
    return .finite negative (← timesTenPower? number taken.exponent.toNat)

end LeadingDigits

namespace Numeral

/-- The largest exponent that is worked with. -/
def maxExponent : Nat := Word.signedBound32 - 1

/-- An exponent kept between the bounds of 32 bits with a sign. -/
def clampExponent (exponent : Int) : Int :=
  max (-Word.signedBound32) (min (Word.signedBound32 - 1) exponent)

/-- The digits that decide a numeral, its written exponent aside. -/
def leadingDigits (numeral : Numeral) : LeadingDigits :=
  (LeadingDigits.takeWhole 0 numeral.whole).takeFraction (numeral.fraction.getD [])

/-- The number of a numeral with a fraction, an exponent or too many digits. -/
def real? (numeral : Numeral) : Option Binary64 :=
  let taken := numeral.leadingDigits
  match numeral.exponent with
  | none => taken.real? numeral.negative
  | some (down, digits) =>
    let size := Decimal.value digits
    if maxExponent < size then
      if taken.word ≠ 0 ∧ !down then none else some (.finite numeral.negative .zero)
    else
      let shift : Int := if down then -size else size
      { taken with exponent := clampExponent (taken.exponent + shift) }.real? numeral.negative

/-- The integer of a numeral, if it is written as one and fits. A negative zero is no integer. -/
def integer? (numeral : Numeral) : Option Int :=
  if numeral.fraction.isSome ∨ numeral.exponent.isSome then none
  else
    let size := Decimal.value numeral.whole
    if numeral.negative then
      if 0 < size ∧ size ≤ Word.signedBound64 then some (-size) else none
    else if size < Word.signedBound64 then some size else none

/-- What a numeral denotes. -/
def value? (numeral : Numeral) : Option NumeralValue :=
  match numeral.integer? with
  | some value => some (.integer value)
  | none => numeral.real?.map .real

end Numeral

end RangeServer
