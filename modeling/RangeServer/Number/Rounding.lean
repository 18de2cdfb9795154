/-!
# Rounding

The natural number nearest to a quotient, a half going to the even neighbour, and with it the text
of a quotient with a fixed number of decimal places.
-/

namespace RangeServer.Rounding

/-- The number nearest to a quotient; of two equally near ones the even. -/
def halfEven (numerator denominator : Nat) : Nat :=
  let floor := numerator / denominator
  let twice := 2 * (numerator % denominator)
  if twice < denominator then floor
  else if denominator < twice then floor + 1
  else floor + floor % 2

end RangeServer.Rounding
