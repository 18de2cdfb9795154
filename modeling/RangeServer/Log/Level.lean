import RangeServer.Log.Message
import RangeServer.Text.Ascii
import RangeServer.Text.Blank

/-!
# Log levels

How much the log keeps: errors always, warnings from the middle level on, news at the highest
level only. Access lines are kept at every level.
-/

namespace RangeServer

/-- How much the log keeps, from least to most. -/
inductive Level where
  | error
  | warn
  | info
  deriving DecidableEq, Repr

namespace Level

/-- The level that a setting names, blanks around it and case aside; any other name asks for
everything. -/
def ofName (name : String) : Level :=
  match Ascii.lower (Blank.trim name) with
  | "error" => .error
  | "warn" => .warn
  | "warning" => .warn
  | _ => .info

/-- The place of a level in the order from least to most. -/
def rank : Level → Nat
  | .error => 0
  | .warn => 1
  | .info => 2

/-- Whether a level keeps at least what another keeps. -/
def atLeast (level other : Level) : Bool := other.rank ≤ level.rank

/-- The name of a level. -/
def title : Level → String
  | .error => "Error"
  | .warn => "Warn"
  | .info => "Info"

/-- Whether messages of a kind are kept at a level. -/
def keeps (level : Level) : MessageKind → Bool
  | .access => true
  | .info => level.atLeast .info
  | .warning => level.atLeast .warn
  | .error => true

end Level

end RangeServer
