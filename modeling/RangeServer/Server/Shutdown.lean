import RangeServer.Log.Notice

/-!
# Asking for a shutdown

A request for a shutdown is remembered for good, and it wakes the server once. A request that comes
while the server is not waiting is kept as a permit, which the next wait takes; there is never more
than one.
-/

namespace RangeServer

/-- What is known about a shutdown: whether one was ever asked for, and whether a wait would be
woken. -/
structure ShutdownSwitch where
  requested : Bool
  permit : Bool
  deriving DecidableEq, Repr

namespace ShutdownSwitch

/-- The switch before anything was asked for. -/
def idle : ShutdownSwitch := ⟨false, false⟩

/-- Asks for a shutdown; the message gives the reason. -/
def request (_switch : ShutdownSwitch) (reason : String) : ShutdownSwitch × Message :=
  (⟨true, true⟩, .shutdownAsked reason)

/-- Waits without patience: whether the wait is woken. -/
def poll (switch : ShutdownSwitch) : ShutdownSwitch × Bool :=
  ({ switch with permit := false }, switch.permit)

end ShutdownSwitch

end RangeServer
