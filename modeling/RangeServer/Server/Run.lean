import RangeServer.Server.Admission
import RangeServer.Server.Connection
import RangeServer.Server.Drain

/-!
# Runs of the server

A server reacts to events one at a time: connections that come, send, stop sending, stay silent or
fail, and the steps of a shutdown. Each event is worked off completely before the next. Connections
are numbered in the order in which they come, those that are turned away included.

A shutdown takes several steps, and connections go on between any two of them. Listening ends first,
and from then on no connection is let in. Each connection notices that on its own, sooner or later.
The server tells the log how many are open, begins to wait, looks at the counter again and again,
and tells the log if some are open when the time is over. It reads the counter anew in each of these
steps.
-/

namespace RangeServer

/-- How far a server has come. -/
inductive ServerStage where
  | listening
  /-- Listening has ended, and connections can notice it. -/
  | closing
  /-- The log has been told how many connections were open. -/
  | announced
  /-- Waiting for connections to end until the clock shows a time. -/
  | draining (deadline : Nat)
  /-- The time was over and connections were open, of which the log has not been told. -/
  | overdue
  | stopped
  /-- Ended by a fault of the server itself. -/
  | crashed (fault : Fault)
  deriving DecidableEq, Repr

namespace ServerStage

/-- The stage with which the wait for connections begins, if the clock can show its end. -/
def ofDeadline : Checked Nat → ServerStage
  | .ok deadline => .draining deadline
  | .error fault => .crashed fault

/-- The stage of a wait for connections, by what it has come to. -/
def ofWait (deadline : Nat) : Option Bool → ServerStage
  | none => .draining deadline
  | some true => .stopped
  | some false => .overdue

end ServerStage

/-- A server in the midst of a run. -/
structure Server where
  service : Service
  stage : ServerStage
  /-- The counter of open connections. -/
  counter : Nat
  /-- How many connections have come so far. -/
  arrivals : Nat
  /-- The live connections with their numbers. -/
  live : List (Nat × Connection)

/-- What happens to a server. -/
inductive ServerEvent where
  | arrival (peer : Endpoint)
  | segment (number : Nat) (bytes : Bytes) (timing : Timing)
  | endOfInput (number : Nat)
  | timeOut (number : Nat)
  /-- The socket of a connection will not be told to send without delay. -/
  | delayKept (number : Nat) (details : String)
  /-- Reading from a connection or sending on it fails. -/
  | breakDown (number : Nat) (details : String)
  /-- A connection looks whether the server is closing. -/
  | notice (number : Nat)
  /-- A connection cannot be taken from the listener. -/
  | acceptFailure (details : String)
  /-- A shutdown is asked for: listening ends. -/
  | shutdown
  /-- The log is told how many connections are open. -/
  | announce
  /-- The wait for connections begins. -/
  | beginWait (clock : Nat)
  /-- The counter is looked at, and the clock after it. -/
  | look (clock : Nat)
  /-- The log is told of the connections that are open after the wait. -/
  | complain
  deriving DecidableEq

/-- What a server does. -/
inductive ServerEffect where
  | logged (message : Message)
  | sent (number : Nat) (response : SentResponse)
  | closed (number : Nat)
  /-- A connection came when nobody listened. -/
  | refused
  deriving DecidableEq

namespace Server

/-- A server that has just begun to listen. -/
def start (service : Service) : Server := ⟨service, .listening, 0, 0, []⟩

/-- The settings about limits. -/
def limits (server : Server) : PerformanceSettings := server.service.settings.performance

/-- Whether connections are let in. -/
def listens (server : Server) : Bool := server.stage == .listening

/-- What a connection does, as effects of its server. -/
def effects (number : Nat) (output : ConnectionOutput) : List ServerEffect :=
  output.sent.map (.sent number) ++ output.messages.map .logged

/-- Live connections with one of them replaced. -/
def replace (number : Nat) (connection : Connection) (live : List (Nat × Connection)) :
    List (Nat × Connection) :=
  live.map fun entry => if entry.1 = number then (number, connection) else entry

/-- Live connections without one of them. -/
def drop (number : Nat) (live : List (Nat × Connection)) : List (Nat × Connection) :=
  live.filter (·.1 != number)

/-- The server after one of its connections has come to a new state. One that has ended gives back
its place in the counter; one that ended in a fault does not. -/
def settle (server : Server) (number : Nat) (connection : Connection) :
    Server × List ServerEffect :=
  match connection.stage with
  | .ended =>
    ({ server with
        counter := Admission.leave server.counter
        live := drop number server.live }, [.closed number])
  | .crashed => ({ server with live := drop number server.live }, [.closed number])
  | _ => ({ server with live := replace number connection server.live }, [])

/-- The server after something has happened on one of its connections. -/
def onConnection (server : Server) (number : Nat)
    (react : Connection → Connection × ConnectionOutput) : Server × List ServerEffect :=
  match server.live.lookup number with
  | none => (server, [])
  | some connection =>
    let (connection, output) := react connection
    let (server, closings) := server.settle number connection
    (server, effects number output ++ closings)

/-- The counter is raised for a connection that has come, before the connection is judged. -/
def raise (server : Server) : Server := { server with counter := Admission.enter server.counter }

/-- The connection that has come is let in. -/
def letIn (server : Server) (peer : Endpoint) : Server :=
  { server with
    arrivals := server.arrivals + 1
    live := server.live ++ [(server.arrivals, Connection.start server.limits peer)] }

/-- The connection that has come is turned away and gives back its place in the counter. -/
def turnAway (server : Server) : Server :=
  { server with
    counter := Admission.leave server.counter
    arrivals := server.arrivals + 1 }

/-- The connection that has come is judged; so many were open when it raised the counter. -/
def judge (server : Server) (peer : Endpoint) (opened : Nat) : Server × List ServerEffect :=
  let admission := Admission.verdict server.limits.maxConnections opened
  let logged :=
    (Admission.messages peer server.service.logsAccess admission).map ServerEffect.logged
  match admission with
  | .admitted => (server.letIn peer, logged)
  | .turnedAway _ _ => (server.turnAway, logged ++ [.closed server.arrivals])

/-- A connection comes. -/
def arrive (server : Server) (peer : Endpoint) : Server × List ServerEffect :=
  if server.listens then server.raise.judge peer server.counter else (server, [.refused])

/-- The steps of a shutdown: the stage that an event leads to, and what the log is told. -/
def proceed (server : Server) (event : ServerEvent) : ServerStage × List Message :=
  match server.stage, event with
  | .listening, .shutdown => (.closing, [])
  | .closing, .announce => (.announced, [.listenerClosed server.counter])
  | .announced, .beginWait clock =>
    (.ofDeadline (Drain.deadline clock server.limits.writeTimeout), [])
  | .draining deadline, .look clock =>
    (.ofWait deadline (Drain.decide? deadline ⟨server.counter, clock⟩), [])
  | .overdue, .complain =>
    (.stopped, [.graceOver server.counter server.limits.writeTimeout.toNat])
  | stage, _ => (stage, [])

/-- The server after a step of its shutdown. -/
def advance (server : Server) (event : ServerEvent) : Server × List ServerEffect :=
  let (stage, messages) := server.proceed event
  ({ server with stage }, messages.map .logged)

/-- Works off one event. -/
def step (server : Server) : ServerEvent → Server × List ServerEffect
  | .arrival peer => server.arrive peer
  | .segment number bytes timing =>
    server.onConnection number (Connection.receive server.service timing bytes)
  | .endOfInput number => server.onConnection number Connection.endOfInput
  | .timeOut number => server.onConnection number (Connection.timeOut server.limits)
  | .delayKept number details => server.onConnection number (Connection.delayKept details)
  | .breakDown number details => server.onConnection number (Connection.breakDown details)
  | .notice number => server.onConnection number (Connection.notice !server.listens)
  | .acceptFailure details =>
    (server, if server.listens then [.logged (.acceptFailed details)] else [])
  | event => server.advance event

/-- Works off events in order; the effects of all of them together. -/
def run (server : Server) : List ServerEvent → Server × List ServerEffect
  | [] => (server, [])
  | event :: rest =>
    let (server, effects) := server.step event
    let (server, more) := server.run rest
    (server, effects ++ more)

end Server

end RangeServer
