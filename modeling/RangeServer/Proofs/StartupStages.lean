import Mathlib
import RangeServer.Proofs.AccessLines
import RangeServer.Server.Startup

/-!
# The stages of a start

Once the settings are loaded, a start goes through four stages: threads, log, address, listener.
`Startup.Ends` says all that a start can come to, one way for each stage that may end it. So a stage
that fails is told as the fault of the start, the stages before it have passed and those behind it
have done nothing: no address is listened on, and not a byte of the banner is written. The one fault
that is not told but breaks the program off is that of the host in making the threads, and no host
makes none.
-/

namespace RangeServer

/-- The stages of a start, once the settings are loaded. -/
inductive StartupStage where
  | threads
  | logging
  | address
  | listening
  deriving DecidableEq, Repr

/-- The stages before a stage. -/
def StartupStage.before : StartupStage → List StartupStage
  | .threads => []
  | .logging => [.threads]
  | .address => [.threads, .logging]
  | .listening => [.threads, .logging, .address]

/-- The stage that a fault comes from, if it comes from one behind the settings. -/
def StartupFault.stage? : StartupFault → Option StartupStage
  | .settings _ => none
  | .threads _ => some .threads
  | .logging _ => some .logging
  | .address => some .address
  | .listening _ => some .listening

namespace Startup

variable (surroundings : Surroundings) (settings : Settings)

/-- Whether a stage of a start succeeds. -/
def Passes : StartupStage → Prop
  | .threads => surroundings.threads.make settings.server.workers = .ok (.ok ())
  | .logging => ((Journal.unset surroundings.files).setUp settings.logging).2 = .ok ()
  | .address => ∃ wanted, Endpoint.ofHost? settings.server.host settings.server.port = some wanted
  | .listening => ∃ wanted bound,
      Endpoint.ofHost? settings.server.host settings.server.port = some wanted ∧
        surroundings.listeners.bind wanted = .ok bound

/-- The log of a start after its set-up. -/
def journalSetUp : Journal := ((Journal.unset surroundings.files).setUp settings.logging).1

/-- What a start comes to when its settings are loaded. -/
inductive Ends : Checked Startup → Prop where
  | crash {fault : Fault}
      (making : surroundings.threads.make settings.server.workers = .error fault) :
      Ends (.error fault)
  | threads {fault : IoFault}
      (making : surroundings.threads.make settings.server.workers = .ok (.error fault)) :
      Ends (.ok ⟨.unset surroundings.files, surroundings.listeners, .error (.threads fault)⟩)
  | logging {fault : IoFault} (made : Passes surroundings settings .threads)
      (setUp : ((Journal.unset surroundings.files).setUp settings.logging).2 = .error fault) :
      Ends (.ok ⟨journalSetUp surroundings settings, surroundings.listeners,
        .error (.logging fault)⟩)
  | address (made : Passes surroundings settings .threads)
      (isSet : Passes surroundings settings .logging)
      (noHost : Endpoint.ofHost? settings.server.host settings.server.port = none) :
      Ends (.ok ⟨journalSetUp surroundings settings, surroundings.listeners, .error .address⟩)
  | listening {wanted : Endpoint} {fault : IoFault}
      (made : Passes surroundings settings .threads)
      (isSet : Passes surroundings settings .logging)
      (isHost : Endpoint.ofHost? settings.server.host settings.server.port = some wanted)
      (refused : surroundings.listeners.bind wanted = .error fault) :
      Ends (.ok ⟨journalSetUp surroundings settings, surroundings.listeners,
        .error (.listening fault)⟩)
  | serving {wanted endpoint : Endpoint} {listeners : Listeners}
      (made : Passes surroundings settings .threads)
      (isSet : Passes surroundings settings .logging)
      (isHost : Endpoint.ofHost? settings.server.host settings.server.port = some wanted)
      (bound : surroundings.listeners.bind wanted = .ok (listeners, endpoint)) :
      Ends (.ok ⟨announce (journalSetUp surroundings settings) settings endpoint, listeners,
        .ok (.standard settings, endpoint)⟩)

variable {surroundings settings}

theorem ends_of_load
    (loaded : loadSettings surroundings = .ok (.ok settings)) :
    Ends surroundings settings (run surroundings) := by
  unfold run prepare
  simp only [loaded, ok_bind]
  cases making : surroundings.threads.make settings.server.workers with
  | error fault => exact .crash making
  | ok made =>
      cases made with
      | error fault => exact .threads making
      | ok done =>
          simp only [ok_bind]
          cases setUp : (Journal.unset surroundings.files).setUp settings.logging with
          | mk journal outcome =>
              have isJournal : journal = journalSetUp surroundings settings := by
                rw [journalSetUp, setUp]
              subst isJournal
              cases outcome with
              | error fault => exact .logging making (by rw [setUp])
              | ok done =>
                  have isSet : Passes surroundings settings .logging :=
                    congrArg Prod.snd setUp
                  cases isHost :
                      Endpoint.ofHost? settings.server.host settings.server.port with
                  | none => exact .address making isSet isHost
                  | some wanted =>
                      simp only [pure, Except.pure, ok_bind]
                      cases bound : surroundings.listeners.bind wanted with
                      | error fault => exact .listening making isSet isHost bound
                      | ok listening => exact .serving making isSet isHost bound

theorem make_of_passes (made : Passes surroundings settings .threads) :
    surroundings.threads.make settings.server.workers = .ok (.ok ()) :=
  made

theorem Ends.eq_error_iff {result : Checked Startup}
    (ends : Ends surroundings settings result) (fault : Fault) :
    result = .error fault ↔ surroundings.threads.make settings.server.workers = .error fault := by
  cases ends with
  | crash making => simp [making]
  | threads making => simp [making]
  | logging made => simp [make_of_passes made]
  | address made => simp [make_of_passes made]
  | listening made => simp [make_of_passes made]
  | serving made => simp [make_of_passes made]

/-! ## Starts that fail -/

variable (surroundings settings) in
/-- A start that fails at a stage. The stages before have passed, and those behind have done
nothing: no address is listened on and no target of the log has a byte more. A log whose set-up
failed keeps no targets, and without threads it is not set up at all. -/
structure FailsAt (startup : Startup) (stage : StartupStage) : Prop where
  fails : ¬Passes surroundings settings stage
  passed : ∀ earlier ∈ stage.before, Passes surroundings settings earlier
  listeners : startup.listeners = surroundings.listeners
  bytes : ∀ target, startup.journal.outputs.bytes target =
    (Journal.unset surroundings.files).outputs.bytes target
  writer : stage = .threads ∨ stage = .logging → startup.journal.writer = none
  journal : stage = .threads → startup.journal = .unset surroundings.files

theorem bytes_journalSetUp (surroundings : Surroundings) (settings : Settings)
    (target : LogTarget) :
    (journalSetUp surroundings settings).outputs.bytes target =
      (Journal.unset surroundings.files).outputs.bytes target :=
  Journal.bytes_setUp _ settings.logging target

theorem Ends.of_error {startup : Startup} {fault : StartupFault}
    (ends : Ends surroundings settings (.ok startup))
    (failed : startup.outcome = .error fault) :
    ∃ stage, fault.stage? = some stage ∧
      FailsAt surroundings settings startup stage := by
  cases ends with
  | threads making =>
      cases failed
      exact ⟨.threads, rfl,
        { fails := by simp [Passes, making]
          passed := by simp [StartupStage.before]
          listeners := rfl
          bytes := fun _ => rfl
          writer := fun _ => rfl
          journal := fun _ => rfl }⟩
  | logging made setUp =>
      cases failed
      exact ⟨.logging, rfl,
        { fails := by simp [Passes, setUp]
          passed := by simpa [StartupStage.before] using made
          listeners := rfl
          bytes := bytes_journalSetUp surroundings settings
          writer := fun _ => Journal.writer_setUp_of_error setUp
          journal := by rintro ⟨⟩ }⟩
  | address made isSet noHost =>
      cases failed
      exact ⟨.address, rfl,
        { fails := by simp [Passes, noHost]
          passed := by simpa [StartupStage.before] using ⟨made, isSet⟩
          listeners := rfl
          bytes := bytes_journalSetUp surroundings settings
          writer := by simp
          journal := by rintro ⟨⟩ }⟩
  | listening made isSet isHost refused =>
      cases failed
      exact ⟨.listening, rfl,
        { fails := by simp [Passes, isHost, refused]
          passed := by simpa [StartupStage.before] using ⟨made, isSet, _, isHost⟩
          listeners := rfl
          bytes := bytes_journalSetUp surroundings settings
          writer := by simp
          journal := by rintro ⟨⟩ }⟩
  | serving => cases failed

/-! ## Starts that succeed -/

variable (surroundings settings) in
/-- A start that succeeds: all stages have passed, the service listens on the address that the
settings ask for, and the banner is written to the targets of the log. -/
structure Serves (startup : Startup) (service : Service) (endpoint : Endpoint) : Prop where
  passed : ∀ stage, Passes surroundings settings stage
  service : service = .standard settings
  listens : ∃ wanted, Endpoint.ofHost? settings.server.host settings.server.port = some wanted ∧
    surroundings.listeners.bind wanted = .ok (startup.listeners, endpoint)
  bytes : ∀ target, startup.journal.outputs.bytes target =
    (Journal.unset surroundings.files).outputs.bytes target ++
      (Banner.messages endpoint settings .standard).flatMap fun message =>
        if Journal.target? (journalSetUp surroundings settings).writer message.kind = some target
        then Utf8.encode message.text ++ [0x0A]
        else []

theorem Ends.of_ok {startup : Startup} {service : Service} {endpoint : Endpoint}
    (ends : Ends surroundings settings (.ok startup))
    (succeeded : startup.outcome = .ok (service, endpoint)) :
    Serves surroundings settings startup service endpoint := by
  cases ends with
  | threads => cases succeeded
  | logging => cases succeeded
  | address => cases succeeded
  | listening => cases succeeded
  | serving made isSet isHost bound =>
      cases succeeded
      refine ⟨?_, rfl, ⟨_, isHost, bound⟩, ?_⟩
      · intro stage
        cases stage with
        | threads => exact made
        | logging => exact isSet
        | address => exact ⟨_, isHost⟩
        | listening => exact ⟨_, _, isHost, bound⟩
      · intro target
        have ready : (journalSetUp surroundings settings).Ready := Journal.ready_setUp isSet
        rw [announce, Journal.bytes_writeAll ready, bytes_journalSetUp]
        rfl

/-- A start whose settings are loaded breaks off exactly if the host does in making the threads, so
on any host if no threads are asked for. Otherwise it fails with the fault of a stage, without
effects of the later ones, or it has passed all stages and serves. -/
theorem run_by_stages (loaded : loadSettings surroundings = .ok (.ok settings)) :
    (∀ fault, run surroundings = .error fault ↔
        surroundings.threads.make settings.server.workers = .error fault) ∧
      (settings.server.workers = some 0 → run surroundings = .error .noThreads) ∧
      ∀ startup, run surroundings = .ok startup →
        (∀ fault, startup.outcome = .error fault → ∃ stage, fault.stage? = some stage ∧
          FailsAt surroundings settings startup stage) ∧
        ∀ service endpoint, startup.outcome = .ok (service, endpoint) →
          Serves surroundings settings startup service endpoint := by
  have ends : Ends surroundings settings (run surroundings) := ends_of_load loaded
  refine ⟨ends.eq_error_iff, ?_, ?_⟩
  · intro isZero
    rw [ends.eq_error_iff, isZero, surroundings.threads.make_zero]
  · intro startup isStartup
    rw [isStartup] at ends
    exact ⟨fun fault => ends.of_error, fun service endpoint => ends.of_ok⟩

/-- A start of which nothing is said, on a host where another program listens on the port. -/
theorem run_by_stages_port_in_use :
    let surroundings : Surroundings :=
      ⟨[], [], ⟨[], []⟩, ⟨[⟨.v4 .any, 8000⟩]⟩, .withRoom 64, .plain⟩
    let settings : Settings :=
      ⟨⟨"0.0.0.0", 8000, none⟩, ⟨"info", true, "combined", none, none⟩, ⟨75, 30, 30, none⟩,
        ⟨.unsatisfiable⟩⟩
    loadSettings surroundings = .ok (.ok settings) ∧
      (∀ fault, run surroundings ≠ .error fault) ∧
      ∀ startup, run surroundings = .ok startup →
        (∀ fault, startup.outcome = .error fault → ∃ stage, fault.stage? = some stage ∧
          FailsAt surroundings settings startup stage) ∧
        ∀ service endpoint, startup.outcome = .ok (service, endpoint) →
          Serves surroundings settings startup service endpoint := by
  intro surroundings settings
  have loaded : loadSettings surroundings = .ok (.ok settings) := by cbv
  have stages : (∀ fault, run surroundings = .error fault ↔
      surroundings.threads.make settings.server.workers = .error fault) ∧ _ := run_by_stages loaded
  refine ⟨loaded, ?_, stages.2.2⟩
  intro fault breaks
  cases (stages.1 fault).mp breaks

/-- No threads are asked for in the environment, and the settings are loaded all the same. -/
theorem run_breaks_without_threads :
    let surroundings : Surroundings :=
      ⟨[], [("FIXTURE_SERVER__WORKERS", "0")], ⟨[], []⟩, .empty, .withRoom 64, .plain⟩
    let settings : Settings :=
      ⟨⟨"0.0.0.0", 8000, some 0⟩, ⟨"info", true, "combined", none, none⟩, ⟨75, 30, 30, none⟩,
        ⟨.unsatisfiable⟩⟩
    loadSettings surroundings = .ok (.ok settings) ∧ run surroundings = .error .noThreads := by
  intro surroundings settings
  have loaded : loadSettings surroundings = .ok (.ok settings) := by cbv
  exact ⟨loaded, ((ends_of_load loaded).eq_error_iff .noThreads).mpr rfl⟩

end Startup

end RangeServer
