import RangeServer.Log.Message
import RangeServer.Net.Printer
import RangeServer.Text.Decimal

/-!
# Notices

The messages that the server writes about itself: connections that come, fail or are turned away,
and the steps of a shutdown.
-/

namespace RangeServer.Message

/-- A connection has come. -/
def accepted (peer : Endpoint) : Message := info ("[Connection] Accepted from: " ++ peer.text)

/-- The socket of a connection would not be told to send without delay. -/
def delayKept (peer : Endpoint) (details : String) : Message :=
  warning ("Failed to set TCP_NODELAY for " ++ peer.text ++ ": " ++ details)

/-- A connection has ended with an error. -/
def failed (details : String) : Message := error ("Failed to serve connection: " ++ details)

/-- A connection could not be taken from the listener. -/
def acceptFailed (details : String) : Message := error ("Failed to accept connection: " ++ details)

/-- A connection is turned away, so many being open already. -/
def turnedAway (peer : Endpoint) (opened limit : Nat) : Message :=
  warning ("Max connections reached: " ++ Decimal.text opened ++ "/" ++ Decimal.text limit ++
    ". Connection from " ++ peer.text ++ " rejected.")

/-- A connection has sent no complete request head in time. -/
def silent (peer : Endpoint) (seconds : Nat) : Message :=
  warning ("Connection from " ++ peer.text ++ " sent no request headers within " ++
    Decimal.text seconds ++ " seconds")

/-- The server listens for signals. -/
def handlersReady (process : Nat) : Message :=
  signal ("Handlers registered (SIGTERM, SIGINT), pid " ++ Decimal.text process)

/-- A shutdown is asked for. -/
def shutdownAsked (reason : String) : Message :=
  signal (reason ++ " received, initiating graceful shutdown...")

/-- The server has stopped listening, so many connections being open still. -/
def listenerClosed (opened : Nat) : Message :=
  info ("[Shutdown] Listener closed, " ++ Decimal.text opened ++
    " connection(s) still finishing")

/-- The server stops, so many connections being open after the time that they were given. -/
def graceOver (opened seconds : Nat) : Message :=
  warning (Decimal.text opened ++ " connection(s) still open after " ++ Decimal.text seconds ++
    "s grace period, exiting anyway")

end RangeServer.Message
