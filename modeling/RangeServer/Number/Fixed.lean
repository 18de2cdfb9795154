import RangeServer.Number.Binary64
import RangeServer.Text.Decimal

/-!
# Fixed places

The text of a number with a fixed count of decimal places, rounded from its exact value; a half
goes to the even neighbour.
-/

namespace RangeServer.Dyadic

/-- The text of a number with `places` digits after the point. -/
def fixedText (number : Dyadic) (places : Nat) : String :=
  let unit := tenTo places
  let scaled := Rounding.halfEven (number.numerator * unit) number.denominator
  Decimal.text (scaled / unit) ++ "." ++ String.ofList (Decimal.padded places (scaled % unit))

end RangeServer.Dyadic
