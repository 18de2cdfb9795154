import RangeServer.Log.Banner
import RangeServer.Log.Notice
import RangeServer.Log.Writer
import RangeServer.Net.Listeners
import RangeServer.Net.Parser
import RangeServer.Server.Run
import RangeServer.Settings.Load

/-!
# Starting the server

The server starts in stages: it loads its settings, makes its threads, sets up its log, reads its
address, listens on it and writes its banner. A stage that fails ends the start, and none of the
later ones has any effect. The first argument names the settings file. How threads are made is the
host's matter; a host that is asked for none at all breaks the program off.
-/

namespace RangeServer

/-- How a host makes a pool of threads: as many as it is asked for or, asked for no number, as many
as it sees fit. -/
structure ThreadHost where
  make : Option UInt64 → Checked (Except IoFault Unit)
  make_zero : make (some 0) = .error .noThreads

/-- A host with room for so many threads, which breaks off where more are asked for. -/
def ThreadHost.withRoom (room : Nat) : ThreadHost where
  make
    | none => .ok (.ok ())
    | some count =>
      if count = 0 then .error .noThreads
      else if room < count.toNat then .error .tooManyThreads
      else .ok (.ok ())
  make_zero := rfl

/-- What a program finds when it is started. -/
structure Surroundings where
  arguments : List String
  environment : List (String × String)
  files : FileTree
  listeners : Listeners
  threads : ThreadHost
  forms : FileForms

/-- Why a server does not start. -/
inductive StartupFault where
  | settings (fault : SettingsError)
  | threads (fault : IoFault)
  | logging (fault : IoFault)
  | address
  | listening (fault : IoFault)
  deriving DecidableEq, Repr

namespace StartupFault

/-- How a failed start is told in full. -/
def details : StartupFault → String
  | .settings fault => fault.text
  | .threads fault => fault.details
  | .logging fault => fault.details
  | .address => Quoted.quote Endpoint.refusal
  | .listening fault => fault.details

end StartupFault

/-- The end of a start: what was written, what is listened on, and the service with the endpoint
that it listens on, or why there is none. -/
structure Startup where
  journal : Journal
  listeners : Listeners
  outcome : Except StartupFault (Service × Endpoint)

namespace Startup

/-- The settings file of a program that is given no arguments. -/
def standardPath : String := "fixture"

/-- The settings that are found. -/
def loadSettings (surroundings : Surroundings) : Checked (Except SettingsError Settings) :=
  Settings.load surroundings.forms surroundings.files
    (surroundings.arguments.head?.getD standardPath) surroundings.environment

/-- The stages up to the address: the log that was set up, and the settings with the endpoint that
they ask for. -/
def prepare (surroundings : Surroundings) :
    Checked (Journal × Except StartupFault (Settings × Endpoint)) := do
  let unset := Journal.unset surroundings.files
  match ← loadSettings surroundings with
  | .error fault => return (unset, .error (.settings fault))
  | .ok settings =>
    match ← surroundings.threads.make settings.server.workers with
    | .error fault => return (unset, .error (.threads fault))
    | .ok () =>
      match unset.setUp settings.logging with
      | (journal, .error fault) => return (journal, .error (.logging fault))
      | (journal, .ok ()) =>
        match Endpoint.ofHost? settings.server.host settings.server.port with
        | none => return (journal, .error .address)
        | some wanted => return (journal, .ok (settings, wanted))

/-- The log after the banner. -/
def announce (journal : Journal) (settings : Settings) (endpoint : Endpoint) : Journal :=
  journal.writeAll (Banner.messages endpoint settings Catalogue.standard)

/-- All stages. -/
def run (surroundings : Surroundings) : Checked Startup := do
  match ← prepare surroundings with
  | (journal, .error fault) => return ⟨journal, surroundings.listeners, .error fault⟩
  | (journal, .ok (settings, wanted)) =>
    match surroundings.listeners.bind wanted with
    | .error fault => return ⟨journal, surroundings.listeners, .error (.listening fault)⟩
    | .ok (listeners, endpoint) =>
      return ⟨announce journal settings endpoint, listeners,
        .ok (Service.standard settings, endpoint)⟩

/-- What a failed start tells on standard error. -/
def complaint (fault : StartupFault) : String := "Error: " ++ fault.details ++ "\n"

/-- The code that a program ends with after a failed start. -/
def failureCode : Nat := 1

end Startup

namespace Server

/-- The messages among effects. -/
def messages (effects : List ServerEffect) : List Message :=
  effects.filterMap fun effect =>
    match effect with
    | .logged message => some message
    | _ => none

end Server

end RangeServer
