import RangeServer.Checked
import RangeServer.Number.Powers

/-!
# Waiting for connections to end

At a shutdown the server looks at its counter of connections again and again. It stops waiting when
the counter is zero, or when the clock, read after a count that is not, has come to a deadline.
Times are nanoseconds, and the clock shows seconds of 63 bits.
-/

namespace RangeServer.Drain

/-- The nanoseconds of a second. -/
def second : Nat := 1000000000

/-- The nanoseconds between two looks at the counter. -/
def interval : Nat := 50000000

/-- The last second that the clock can show. -/
def maxSecond : Nat := Word.signedBound64 - 1

/-- The time when a grace in seconds is over, if the clock can show it. -/
def deadline (now : Nat) (grace : UInt64) : Checked Nat :=
  let finish := now + grace.toNat * second
  if finish / second ≤ maxSecond then .ok finish else .error .clockOverflow

/-- The time when a grace in nanoseconds is over, if the clock can show it. -/
def deadlineAfter (now grace : Nat) : Checked Nat :=
  if (now + grace) / second ≤ maxSecond then .ok (now + grace) else .error .clockOverflow

theorem deadline_eq (now : Nat) (grace : UInt64) :
    deadline now grace = deadlineAfter now (grace.toNat * second) := rfl

/-- One look: how many connections are counted, and what the clock shows after that. -/
structure Look where
  count : Nat
  clock : Nat
  deriving DecidableEq, Repr

/-- What one look decides: that all connections have ended, that time is over, or nothing yet. -/
def decide? (deadline : Nat) (look : Look) : Option Bool :=
  if look.count = 0 then some true
  else if deadline ≤ look.clock then some false
  else none

/-- What a sequence of looks decides: its first look that decides anything. -/
def wait? (deadline : Nat) (looks : List Look) : Option Bool :=
  looks.findSome? (decide? deadline)

end RangeServer.Drain
