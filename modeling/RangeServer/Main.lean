import RangeServer.Server.Shutdown
import RangeServer.Server.Startup
import Std.Async.Signal
import Std.Async.TCP
import Std.Async.Timer
import Std.Internal.UV.System
import Std.Sync.CancellationToken
import Std.Sync.Mutex

/-!
# The program

Carries the pure definitions to the outside: it looks up the files that a start asks for, writes
what the log has to write, and passes on to the server what happens on its sockets. Each event is
worked off under one lock, so that the server sees them one at a time.
-/

namespace RangeServer.Program

open Std.Async Std.Net Std.Internal

/-- The text of a place in the file tree. -/
def placeText (place : List String) : String := "/" ++ "/".intercalate place

/-- What the names of a path lead to, if anything. The content is read only on demand. -/
def probe (path : String) (withContent : Bool) : IO (Option (List String × FileEntry)) := do
  try
    let real ← IO.FS.realPath path
    let place := (PathName.ofText real.toString).names
    if ← real.isDir then return some (place, .directory)
    let content ← if withContent then
        try pure (← IO.FS.readBinFile real).toList catch _ => pure []
      else pure []
    return some (place, .file content)
  catch _ => return none

/-- The tree with what the path and the paths above it lead to. -/
def lookUp (withContent : Bool) (tree : FileTree) (path : PathName) : IO FileTree := do
  let lead := if path.fromRoot then "/" else ""
  let mut tree := tree
  for count in List.range path.names.length do
    let text := lead ++ "/".intercalate (path.names.take (count + 1))
    match ← probe text (withContent && count + 1 == path.names.length) with
    | some (place, .directory) => tree := tree.withDirectories [] place
    | some (place, entry) => tree := tree.put place entry
    | none => pure ()
  return tree

/-- A host with room for the threads that the system has room for. -/
def threadHost : IO ThreadHost := do
  try
    let limit ← IO.FS.readFile "/proc/sys/kernel/threads-max"
    return .withRoom (limit.trimAscii.toString.toNat?.getD 4096)
  catch _ => return .withRoom 4096

/-- The part of the system that a start can see. -/
def surroundings (arguments : List String) : IO Surroundings := do
  let environment := (← UV.System.osEnviron).toList
  let home := (PathName.ofText (← IO.FS.realPath ".").toString).names
  let path := PathName.ofText (arguments.head?.getD Startup.standardPath)
  let longer := (FileForm.all.flatMap FileForm.endings).filterMap (SettingsFile.withEnding? path)
  let tree ← (path :: longer).foldlM (lookUp true) (FileTree.bare home)
  let surroundings : Surroundings :=
    ⟨arguments, environment, tree, .empty, ← threadHost, .plain⟩
  let names := match Startup.loadSettings surroundings with
    | .ok (.ok settings) =>
      [settings.logging.accessLogFile, settings.logging.errorLogFile].filterMap id
    | _ => []
  let tree ← (names.map PathName.ofText).foldlM (lookUp false) tree
  return { surroundings with files := tree }

/-- Makes the directories and files that one tree has and another has not. -/
def makeNew (old new : FileTree) : IO Unit := do
  for (place, entry) in new.entries do
    if (old.entries.lookup place).isNone then
      match entry with
      | .directory => IO.FS.createDirAll (placeText place)
      | .file content =>
        IO.FS.withFile (placeText place) .append (·.write content.toByteArray)

/-- The files that a log is written to. -/
def logFiles (journal : Journal) : List (List String) :=
  match journal.writer with
  | some writer => [writer.access, writer.error].filterMap fun target =>
    match target with
    | .file place => some place
    | _ => none
  | none => []

/-- Writes out what has been written to a log since the last time. -/
def flush (journal : Journal) : IO Journal := do
  let outputs := journal.outputs
  let stdout ← IO.getStdout
  stdout.write outputs.output.toByteArray
  stdout.flush
  (← IO.getStderr).write outputs.errorOutput.toByteArray
  let mut files := outputs.files
  for place in logFiles journal do
    match files.entry? place with
    | some (.file content) =>
      unless content.isEmpty do
        IO.FS.withFile (placeText place) .append (·.write content.toByteArray)
        files := files.put place (.file [])
    | _ => pure ()
  return { journal with outputs := ⟨[], [], files⟩ }

/-- An endpoint as a socket address. -/
def toSocketAddress (endpoint : Endpoint) : SocketAddress :=
  match endpoint.address with
  | .v4 address =>
    .v4 ⟨.ofParts address.first address.second address.third address.fourth, endpoint.port⟩
  | .v6 address _ =>
    .v6 ⟨⟨Vector.ofFn fun index => address.groups.getD index.val 0⟩, endpoint.port⟩

/-- A socket address as an endpoint. -/
def ofSocketAddress : SocketAddress → Endpoint
  | .v4 ⟨address, port⟩ =>
    ⟨.v4 ⟨address.octets[0], address.octets[1], address.octets[2], address.octets[3]⟩, port⟩
  | .v6 ⟨address, port⟩ =>
    let groups := address.segments.toList
    if eight : groups.length = 8 then ⟨.v6 ⟨groups, eight⟩ 0, port⟩
    else ⟨.v4 .any, port⟩

/-- Everything that changes while the server runs. -/
structure Running where
  server : Server
  journal : Journal
  clients : List (Nat × TCP.Socket.Client)
  /-- Called off when nothing is to be waited for any more. -/
  waiting : Std.CancellationToken

/-- Sends bytes to a client; whether they reached it. -/
def deliver (client : TCP.Socket.Client) (bytes : Bytes) : IO Bool := do
  try
    (client.send bytes.toByteArray).block
    return true
  catch _ => return false

/-- Carries out what the server does. A client that cannot be reached is sent nothing more. -/
def perform (running : Running) (effects : List ServerEffect) : IO Running := do
  let mut running := running
  let mut lost : List Nat := []
  for effect in effects do
    match effect with
    | .logged message => running := { running with journal := running.journal.write message }
    | .sent number response =>
      if let some client := running.clients.lookup number then
        unless lost.contains number do
          unless ← deliver client response.bytes do
            lost := number :: lost
    | .closed number =>
      if let some client := running.clients.lookup number then
        try client.shutdown.block catch _ => pure ()
      running := { running with clients := running.clients.filter (·.1 != number) }
    | .refused => pure ()
  return { running with journal := ← flush running.journal }

/-- Passes an event on to the server; what the server did about it. -/
def happen (shared : Std.Mutex Running) (event : ServerEvent) : IO (List ServerEffect) :=
  shared.atomically do
    let running ← get
    let (server, effects) := running.server.step event
    set (← perform { running with server } effects)
    return effects

/-- What the clock on the wall shows. -/
def wallClock : IO Timestamp := do
  let now ← Std.Time.Timestamp.now
  let nanoseconds := now.toNanosecondsSinceUnixEpoch.val
  return ⟨nanoseconds / 1000000000, (nanoseconds % 1000000000).toNat, 0⟩

/-- Whether the server still knows a connection. -/
def isKnown (shared : Std.Mutex Running) (number : Nat) : IO Bool :=
  shared.atomically do return ((← get).clients.lookup number).isSome

/-- What a wait for the other end of a connection comes to. -/
inductive Awaited where
  | calledOff
  | silence
  | failure (details : String)
  | input (bytes : Option ByteArray)

/-- Waits for the other end of a connection for so many milliseconds. -/
def awaitInput (waiting : Std.CancellationToken) (client : TCP.Socket.Client) (left : Nat) :
    IO Awaited := do
  let silence ← (Selector.sleep (.ofNat left)).block
  try
    (Selectable.one #[.case (client.recvSelector 65536) (pure <| .input ·),
      .case silence fun _ => pure .silence,
      .case waiting.selector fun _ => pure .calledOff]).block
  catch fault => return .failure (toString fault)

/-- Whether something was answered. -/
def answers (effects : List ServerEffect) : Bool :=
  effects.any fun effect =>
    match effect with
    | .sent _ _ => true
    | _ => false

/-- Reads from a connection until it is closed; `start` is when the wait for a request began. -/
partial def readFrom (shared : Std.Mutex Running) (number : Nat) (client : TCP.Socket.Client)
    (patience start : Nat) : IO Unit := do
  if ← isKnown shared number then
    let waiting := (← shared.atomically get).waiting
    match ← awaitInput waiting client ((start + patience) - (← IO.monoMsNow)) with
    | .calledOff => pure ()
    | .silence => discard <| happen shared (.timeOut number)
    | .failure details => discard <| happen shared (.breakDown number details)
    | .input none => discard <| happen shared (.endOfInput number)
    | .input (some bytes) =>
      let effects ← happen shared (.segment number bytes.toList ⟨← wallClock, 0⟩)
      let now ← IO.monoMsNow
      readFrom shared number client patience (if answers effects then now else start)

/-- Lets in a connection. -/
def letIn (shared : Std.Mutex Running) (client : TCP.Socket.Client) : IO Unit := do
  let peer := ofSocketAddress (← client.getPeerName)
  let (number, patience) ← shared.atomically do
    modify fun running =>
      { running with clients := (running.server.arrivals, client) :: running.clients }
    return ((← get).server.arrivals, (← get).server.limits.readTimeout.toNat * 1000)
  discard <| happen shared (.arrival peer)
  try client.noDelay
  catch fault => discard <| happen shared (.delayKept number (toString fault))
  let start ← IO.monoMsNow
  discard <| IO.asTask (readFrom shared number client patience start) .dedicated

/-- Lets in connections until listening is called off. -/
partial def accept (shared : Std.Mutex Running) (listener : TCP.Socket.Server)
    (listening : Std.CancellationToken) : IO Unit := do
  let listens ←
    try
      let arrived ← (Selectable.one #[.case listener.acceptSelector (pure <| some ·),
        .case listening.selector fun _ => pure none]).block
      arrived.forM (letIn shared)
      pure arrived.isSome
    catch fault =>
      discard <| happen shared (.acceptFailure (toString fault))
      pure true
  if listens then accept shared listener listening

/-- Looks at the counter and the clock once, and tells of open connections if the time is over. -/
def look (shared : Std.Mutex Running) : IO Unit := do
  discard <| happen shared (.look (← IO.monoNanosNow))
  discard <| happen shared .complain

/-- Looks at the counter and the clock until no more waiting for connections is needed. -/
partial def drain (shared : Std.Mutex Running) : IO Unit := do
  match (← shared.atomically get).server.stage with
  | .draining _ =>
    IO.sleep (Drain.interval / 1000000).toUInt32
    look shared
    drain shared
  | _ => pure ()

/-- Takes the steps of a shutdown. The connections notice it behind the first look. -/
def shutDown (shared : Std.Mutex Running) : IO Unit := do
  discard <| happen shared .shutdown
  discard <| happen shared .announce
  discard <| happen shared (.beginWait (← IO.monoNanosNow))
  look shared
  for (number, _) in (← shared.atomically get).clients do
    discard <| happen shared (.notice number)
  drain shared

/-- What is told about a fault that ends the program. -/
def faultText : Fault → String
  | .noThreads => "Worker threads cannot be set to 0"
  | .tooManyThreads => "The system has no room for so many threads"
  | .clockOverflow => "The grace period reaches beyond the clock"
  | .overflow | .outOfBounds => "A number is out of its bounds"
  | .noRoom => "A list of settings is too long"

/-- Serves until a signal comes. -/
def serve (journal : Journal) (service : Service) (listener : TCP.Socket.Server) : IO UInt32 := do
  let running : Running := ⟨.start service, journal, [], ← Std.CancellationToken.new⟩
  let shared ← Std.Mutex.new running
  let terminate ← (← Signal.Waiter.mk .sigterm false).wait
  let interrupt ← (← Signal.Waiter.mk .sigint false).wait
  let process ← UV.System.osGetPid
  let say := fun (message : Message) => shared.atomically (m := IO) do
    let running ← get
    set (← perform running [.logged message])
  say (.handlersReady process.toNat)
  let listening ← Std.CancellationToken.new
  discard <| IO.asTask (accept shared listener listening) .dedicated
  let named := fun (name : String) (waiter : AsyncTask Int) => waiter.mapIO fun _ => return name
  let reason ← IO.ofExcept
    (← IO.waitAny [← named "SIGTERM" terminate, ← named "SIGINT" interrupt] (by simp))
  say (ShutdownSwitch.idle.request reason).2
  listening.cancel
  shutDown shared
  running.waiting.cancel
  match (← shared.atomically get).server.stage with
  | .crashed fault =>
    IO.eprintln (faultText fault)
    return 101
  | _ => return 0

/-- Tells why a start failed. -/
def complain (journal : Journal) (text : String) : IO UInt32 := do
  let journal ← flush journal
  discard <| flush
    { journal with outputs := journal.outputs.write .errorOutput (Utf8.encode text) }
  return Startup.failureCode.toUInt32

/-- Listens on an endpoint; the endpoint that is listened on. -/
def listen (listener : TCP.Socket.Server) (wanted : Endpoint) : IO Endpoint := do
  listener.bind (toSocketAddress wanted)
  listener.listen 128
  return ofSocketAddress (← listener.getSockName)

/-- Starts the server and serves until a signal comes. -/
def run (arguments : List String) : IO UInt32 := do
  let surroundings ← surroundings arguments
  match Startup.prepare surroundings with
  | .error fault =>
    IO.eprintln (faultText fault)
    return 101
  | .ok (journal, outcome) =>
    makeNew surroundings.files journal.outputs.files
    match outcome with
    | .error fault => complain journal (Startup.complaint fault)
    | .ok (settings, wanted) =>
      let listener ← TCP.Socket.Server.mk
      let bound ← listen listener wanted |>.toBaseIO
      match bound with
      | .error fault => complain journal ("Error: " ++ toString fault ++ "\n")
      | .ok endpoint =>
        let journal ← flush (Startup.announce journal settings endpoint)
        serve journal (.standard settings) listener

end RangeServer.Program

/-- Serves as the settings say until a signal comes. -/
def main (arguments : List String) : IO UInt32 := RangeServer.Program.run arguments
