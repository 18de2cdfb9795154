import RangeServer.Log.Notice

/-!
# Admission of connections

A counter is raised for each connection that comes and lowered when one ends. A connection that
finds the limit reached lowers the counter again and is turned away.
-/

namespace RangeServer

/-- Whether a connection is admitted; one that is not tells how many were open. -/
inductive Admission where
  | admitted
  | turnedAway (opened limit : Nat)
  deriving DecidableEq, Repr

namespace Admission

/-- The counter after a connection has come. -/
def enter (counter : Nat) : Nat := counter + 1

/-- The counter after a connection has ended or was turned away. -/
def leave (counter : Nat) : Nat := counter - 1

/-- Whether a connection is admitted that finds so many open. -/
def verdict (limit : Option UInt64) (opened : Nat) : Admission :=
  match limit with
  | none => .admitted
  | some limit => if limit.toNat ≤ opened then .turnedAway opened limit.toNat else .admitted

/-- The messages about a connection that has come. -/
def messages (peer : Endpoint) (logsAccess : Bool) : Admission → List Message
  | .admitted => if logsAccess then [.accepted peer] else []
  | .turnedAway opened limit => [.turnedAway peer opened limit]

end Admission

end RangeServer
