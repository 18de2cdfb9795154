import RangeServer.Number.Binary64
import RangeServer.Text.Decimal

/-!
# Shortest decimals

The decimal with the fewest digits that still reads back as a given floating-point number, and its
positional text. A decimal reads back if it lies between the midpoints to the two neighbouring
numbers; the midpoints themselves belong to the even significand.
-/

namespace RangeServer

/-- The decimal `digits / 10 ^ places`. -/
structure ShortDecimal where
  digits : Nat
  places : Int
  deriving DecidableEq, Repr

namespace ShortDecimal

/-- The floor of a quotient scaled by a power of ten. -/
def scaledFloor (numerator denominator : Nat) (places : Int) : Nat :=
  numerator * tenTo places.toNat / (denominator * tenTo (-places).toNat)

/-- How far to scale a positive quotient so that one digit stands before the point. -/
def leadingPlaces (numerator denominator : Nat) : Int :=
  let guess : Int :=
    ((Decimal.digits denominator).length : Int) - ((Decimal.digits numerator).length : Int)
  if numerator * tenTo guess.toNat < denominator * tenTo (-guess).toNat then guess + 1 else guess

/-- The numbers that read back as a positive one, counted in quarters of its last bit. -/
structure Basin where
  low : Dyadic
  high : Dyadic
  closed : Bool

/-- The basin of a number; below a power of two the neighbour is half as far. -/
def basin (number : Dyadic) : Basin :=
  let quarters := 4 * number.significand
  let below := if number.significand = twoTo 52 ∧ -1074 < number.exponent then 1 else 2
  { low := ⟨quarters - below, number.exponent - 2⟩
    high := ⟨quarters + 2, number.exponent - 2⟩
    closed := number.significand % 2 == 0 }

/-- How a decimal compares with a number. -/
def compareWith (decimal : ShortDecimal) (number : Dyadic) : Ordering :=
  compare (decimal.digits * tenTo (-decimal.places).toNat * number.denominator)
    (number.numerator * tenTo decimal.places.toNat)

/-- Whether a decimal reads back as the number of a basin. -/
def readsBack (decimal : ShortDecimal) (basin : Basin) : Bool :=
  match decimal.compareWith basin.low, decimal.compareWith basin.high with
  | .gt, .lt => true
  | .eq, _ => basin.closed
  | _, .eq => basin.closed
  | _, _ => false

/-- The neighbours of a number on a decimal grid that read back, the nearer first. -/
def candidates (number : Dyadic) (places : Int) : List ShortDecimal :=
  let floor := scaledFloor number.numerator number.denominator places
  let below : ShortDecimal := ⟨floor, places⟩
  let above : ShortDecimal := ⟨floor + 1, places⟩
  let middle : ShortDecimal := ⟨10 * floor + 5, places + 1⟩
  let ordered := if middle.compareWith number = .gt then [below, above] else [above, below]
  ordered.filter (·.readsBack (basin number))

/-- The first candidate on the grids from `count` digits on, on at most `fuel` of them. -/
def search (number : Dyadic) (leading : Int) : Nat → Nat → Option ShortDecimal
  | _, 0 => none
  | count, fuel + 1 =>
    match candidates number (leading + count) with
    | found :: _ => some found
    | [] => search number leading (count + 1) fuel

/-- The shortest decimal that reads back as a number; seventeen digits always do. -/
def ofDyadic (number : Dyadic) : ShortDecimal :=
  if number.significand = 0 then ⟨0, 0⟩
  else
    let leading := leadingPlaces number.numerator number.denominator
    (search number leading 0 17).getD
      ⟨scaledFloor number.numerator number.denominator (leading + 17), leading + 17⟩

/-- The digits of a fraction without the zeros at its end. -/
def trimZeros (fraction : List Char) : List Char :=
  (fraction.reverse.dropWhile (· == '0')).reverse

/-- The positional text: all digits before the point, a point only if digits follow it. -/
def text (decimal : ShortDecimal) : String :=
  if decimal.places ≤ 0 then Decimal.text (decimal.digits * tenTo (-decimal.places).toNat)
  else
    let unit := tenTo decimal.places.toNat
    let fraction := trimZeros (Decimal.padded decimal.places.toNat (decimal.digits % unit))
    let whole := Decimal.text (decimal.digits / unit)
    if fraction.isEmpty then whole else whole ++ "." ++ String.ofList fraction

end ShortDecimal

/-- The shortest positional text of a floating-point number. -/
def Binary64.text : Binary64 → String
  | .finite negative magnitude =>
    (if negative then "-" else "") ++ (ShortDecimal.ofDyadic magnitude).text
  | .infinite negative => if negative then "-inf" else "inf"
  | .undefined => "NaN"

end RangeServer
