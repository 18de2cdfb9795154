import RangeServer.Number.Binary64

/-!
# TOML values

The values of TOML. A date or a time is kept as its normal text, a table as its fields in the order
of writing.
-/

namespace RangeServer

/-- A TOML value. -/
inductive Toml where
  | integer (value : Int)
  | real (value : Binary64)
  | boolean (value : Bool)
  | string (value : String)
  | moment (text : String)
  | array (items : List Toml)
  | table (fields : List (String × Toml))
  deriving Repr

end RangeServer
