/-!
# JSON values

The values of RFC 8259. A number is kept as the numeral that spells it, and an object as its fields
in the order of writing, repeated names included; what a reader of a value makes of them is its
own concern.
-/

namespace RangeServer

/-- A number as it is written: a sign, digits before the point, digits after it if there is a
point, and the sign and digits of the exponent if there is one. -/
structure Numeral where
  negative : Bool
  whole : List Char
  fraction : Option (List Char)
  exponent : Option (Bool × List Char)
  deriving DecidableEq, Repr

/-- A JSON value. -/
inductive Json where
  | null
  | boolean (value : Bool)
  | number (numeral : Numeral)
  | string (value : String)
  | array (items : List Json)
  | object (fields : List (String × Json))
  deriving Repr

end RangeServer
