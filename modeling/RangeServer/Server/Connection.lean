import RangeServer.Http.SentResponse
import RangeServer.Log.Notice
import RangeServer.Service

/-!
# Connections

A connection receives bytes in any portions and answers the requests that they spell, one after the
other and each as soon as its head is complete. It ends after an answer that does not leave it open,
on bytes that can never become a request, when its peer stops sending, when a head does not come in
time and when it breaks down. What it has received and not used yet is all that it knows about its
past, besides whether it has answered anything.
-/

namespace RangeServer

/-- How a connection stands. -/
inductive ConnectionStage where
  /-- Nothing has been answered. -/
  | fresh
  /-- Something has been answered, and a further request may come. -/
  | kept
  /-- Nothing more is read or answered. -/
  | ended
  /-- Answering ended in a fault. -/
  | crashed
  deriving DecidableEq, Repr

/-- A connection from a peer, with the bytes that it has received and not used. -/
structure Connection where
  peer : Endpoint
  stage : ConnectionStage
  /-- Whether an answer may leave the connection open. -/
  mayStay : Bool
  received : Bytes
  deriving DecidableEq

/-- When requests came and how many microseconds their replies took, as the log shows them. -/
structure Timing where
  received : Timestamp
  microseconds : Nat
  deriving DecidableEq

/-- What a connection does: responses that it sends, and messages to the log. -/
structure ConnectionOutput where
  sent : List SentResponse
  messages : List Message
  deriving DecidableEq

namespace ConnectionOutput

/-- Doing nothing. -/
def nothing : ConnectionOutput := ⟨[], []⟩

/-- One thing done after another. -/
def andThen (first second : ConnectionOutput) : ConnectionOutput :=
  ⟨first.sent ++ second.sent, first.messages ++ second.messages⟩

end ConnectionOutput

namespace Connection

/-- A connection that has just been admitted. -/
def start (settings : PerformanceSettings) (peer : Endpoint) : Connection :=
  ⟨peer, .fresh, settings.keepAliveTimeout != 0, []⟩

/-- Whether a connection still reads and answers. -/
def isLive (connection : Connection) : Bool :=
  connection.stage == .fresh || connection.stage == .kept

/-- The connection when it has ended. -/
def finish (connection : Connection) : Connection :=
  { connection with stage := .ended, received := [] }

/-- The bytes behind a body, if the body is there or has come to its end with the head. -/
def behindBody? (body : BodyFraming) (bytes : Bytes) : Option Bytes :=
  match body with
  | .bytes length => if length ≤ bytes.length then some (bytes.drop length) else none
  | .chunks =>
    let ending := Utf8.encode "0\r\n\r\n"
    if ending.isPrefixOf bytes then some (bytes.drop ending.length) else none

/-- Answers a request, given the bytes behind its head. The connection stays open only if the body
of the request is there already. -/
def answer (service : Service) (timing : Timing) (connection : Connection)
    (framed : FramedRequest) (rest : Bytes) : Checked (Connection × ConnectionOutput) := do
  let answer ← service.handle
    ⟨framed.request, connection.peer, timing.received, timing.microseconds⟩
  let stays := connection.mayStay && framed.staysOpen
  let sent := SentResponse.ofResponse answer.response framed.request stays
  let output : ConnectionOutput := ⟨[sent], answer.messages⟩
  match behindBody? framed.body rest with
  | some rest =>
    if stays then return ({ connection with stage := .kept, received := rest }, output)
    else return (connection.finish, output)
  | none => return (connection.finish, output)

/-- The words for a request that breaks off. -/
def brokenOff : String := "hyper::Error(IncompleteMessage)"

/-- The words for bytes that can never become a request. -/
def faultDetails (fault : HeadFault) : String := "hyper::Error(Parse(" ++ fault.title ++ "))"

/-- Answers the requests that the received bytes spell. -/
def serve (service : Service) (timing : Timing) (connection : Connection) :
    Connection × ConnectionOutput :=
  if !connection.isLive then (connection, .nothing)
  else
    match FramedRequest.read connection.received with
    | .incomplete => (connection, .nothing)
    | .refused fault => (connection.finish, ⟨[.ofFault fault], [.failed (faultDetails fault)]⟩)
    | .complete framed rest =>
      match answer service timing connection framed rest with
      | .error _ => ({ connection with stage := .crashed, received := [] }, .nothing)
      | .ok (next, output) =>
        if next.received.length < connection.received.length then
          let (last, more) := serve service timing next
          (last, output.andThen more)
        else (next, output)
  termination_by connection.received.length

/-- Receives bytes. -/
def receive (service : Service) (timing : Timing) (bytes : Bytes) (connection : Connection) :
    Connection × ConnectionOutput :=
  if connection.isLive then
    serve service timing { connection with received := connection.received ++ bytes }
  else (connection, .nothing)

/-- Whether a byte belongs to an empty line. -/
def isLineByte (byte : UInt8) : Bool :=
  byte == HeadReader.carriageReturn || byte == HeadReader.lineFeed

/-- The peer stops sending. A request that has begun is broken off. -/
def endOfInput (connection : Connection) : Connection × ConnectionOutput :=
  if connection.isLive then
    let messages :=
      if (connection.received.dropWhile isLineByte).isEmpty then [] else [.failed brokenOff]
    (connection.finish, ⟨[], messages⟩)
  else (connection, .nothing)

/-- The time for a request head is over. -/
def timeOut (settings : PerformanceSettings) (connection : Connection) :
    Connection × ConnectionOutput :=
  if connection.isLive then
    (connection.finish, ⟨[], [.silent connection.peer settings.readTimeout.toNat]⟩)
  else (connection, .nothing)

/-- The socket would not be told to send without delay, which changes nothing else. -/
def delayKept (details : String) (connection : Connection) : Connection × ConnectionOutput :=
  if connection.isLive then (connection, ⟨[], [.delayKept connection.peer details]⟩)
  else (connection, .nothing)

/-- Reading or sending has failed. -/
def breakDown (details : String) (connection : Connection) : Connection × ConnectionOutput :=
  if connection.isLive then (connection.finish, ⟨[], [.failed details]⟩)
  else (connection, .nothing)

/-- The server is closing. A connection that waits for its next request, or on which no byte has
come, ends at once; any other may answer one request more. -/
def beginClosing (connection : Connection) : Connection :=
  match connection.stage, connection.received with
  | .kept, _ => connection.finish
  | .fresh, [] => connection.finish
  | _, _ => { connection with mayStay := false }

/-- The connection looks whether the server is closing. -/
def notice (isClosing : Bool) (connection : Connection) : Connection × ConnectionOutput :=
  (if isClosing then connection.beginClosing else connection, .nothing)

end Connection

end RangeServer
