import RangeServer.Proofs.LiveConnections
import RangeServer.Proofs.LogKeeping

/-!
# Whom the server lets in

A connection raises the counter first and is judged by what the counter showed until then. The
counter being the number of the live connections, one is turned away exactly if these are as many as
the settings allow, and a place that becomes free goes to the next that comes.

Between the raising of the counter and the verdict other connections may go on and end. That makes
no difference: `Server.judge_run` moves all of it behind the verdict.
-/

namespace RangeServer

namespace Server

variable {server : Server}

/-- As many connections are live as the settings allow. -/
def IsFull (server : Server) : Prop :=
  ∃ limit, server.limits.maxConnections = some limit ∧ server.live.length = limit.toNat

/-- A connection that comes is turned away: it is closed without an answer and a warning is logged,
and nothing changes but the number of the next. -/
def TurnsAway (server : Server) (peer : Endpoint) : Prop :=
  ∃ limit, server.limits.maxConnections = some limit ∧
    server.step (.arrival peer) = ({ server with arrivals := server.arrivals + 1 },
      [.logged (.turnedAway peer server.live.length limit.toNat), .closed server.arrivals])

/-- A connection that comes is let in: it is counted and joins those that are live, which stay as
they are. -/
def LetsIn (server : Server) (peer : Endpoint) : Prop :=
  server.step (.arrival peer) =
    ({ server with
        counter := server.counter + 1
        arrivals := server.arrivals + 1
        live := server.live ++ [(server.arrivals, Connection.start server.limits peer)] },
      if server.service.logsAccess then [.logged (.accepted peer)] else [])

/-- What happens on other connections after one has raised the counter, and before it is judged,
might as well happen behind the verdict. -/
def VerdictMayWait (server : Server) (peer : Endpoint) : Prop :=
  ∀ meanwhile : List ServerEvent,
    (∀ event ∈ meanwhile, ∃ number, event.target? = some number ∧ number < server.arrivals) →
      (server.raise.run meanwhile).1.judge peer server.counter =
          (((server.step (.arrival peer)).1.run meanwhile).1, (server.step (.arrival peer)).2) ∧
        ((server.step (.arrival peer)).1.run meanwhile).2 = (server.raise.run meanwhile).2

/-- Once a live connection has been closed, the next one that comes is let in. -/
def FreesPlaces (server : Server) : Prop :=
  ∀ later : List ServerEvent, (∀ peer, .arrival peer ∉ later) →
    (server.run later).1.listens = true →
      ∀ freed ∈ server.numbers, freed ∈ closings (server.run later).2 →
        ∀ peer, (server.run later).1.LetsIn peer

theorem not_letsIn_of_turnsAway {peer : Endpoint} (turnsAway : server.TurnsAway peer) :
    ¬server.LetsIn peer := by
  rcases turnsAway with ⟨limit, -, away⟩
  intro letsIn
  have sameCounter := congrArg (fun next => next.1.counter) (away.symm.trans letsIn)
  simp at sameCounter

namespace Accounts

variable {past : List ServerEffect}

theorem turnsAway_of_isFull (accounts : server.Accounts past) (listens : server.listens = true)
    (isFull : server.IsFull) (peer : Endpoint) : server.TurnsAway peer := by
  rcases isFull with ⟨limit, limited, reached⟩
  have verdict : Admission.verdict server.limits.maxConnections server.counter =
      .turnedAway server.live.length limit.toNat := by
    simp [Admission.verdict, limited, accounts.counted, reached]
  exact ⟨limit, limited, arrive_of_turnedAway listens verdict peer⟩

theorem letsIn_of_not_isFull (accounts : server.Accounts past) (listens : server.listens = true)
    (notFull : ¬server.IsFull) (peer : Endpoint) : server.LetsIn peer := by
  have verdict :
      Admission.verdict server.limits.maxConnections server.counter = .admitted := by
    cases limited : server.limits.maxConnections with
    | none => rfl
    | some limit =>
        have within := accounts.within limit limited
        have notReached : server.live.length ≠ limit.toNat := by
          intro reached
          exact notFull ⟨limit, limited, reached⟩
        have room : ¬limit.toNat ≤ server.counter := by
          rw [accounts.counted]
          omega
        simp [Admission.verdict, room]
  refine (arrive_of_admitted listens verdict peer).trans ?_
  simp only [Admission.messages]
  split <;> rfl

theorem turnsAway_iff_isFull (accounts : server.Accounts past) (listens : server.listens = true)
    (peer : Endpoint) : server.TurnsAway peer ↔ server.IsFull := by
  refine ⟨?_, fun isFull => accounts.turnsAway_of_isFull listens isFull peer⟩
  intro turnsAway
  by_contra notFull
  exact not_letsIn_of_turnsAway turnsAway (accounts.letsIn_of_not_isFull listens notFull peer)

theorem letsIn_iff_not_isFull (accounts : server.Accounts past) (listens : server.listens = true)
    (peer : Endpoint) : server.LetsIn peer ↔ ¬server.IsFull := by
  refine ⟨?_, fun notFull => accounts.letsIn_of_not_isFull listens notFull peer⟩
  intro letsIn isFull
  exact not_letsIn_of_turnsAway (accounts.turnsAway_of_isFull listens isFull peer) letsIn

theorem freesPlaces (accounts : server.Accounts past)
    (inMemory : server.service.catalogue.InMemory) : server.FreesPlaces := by
  intro later noArrivals listens freed _ closed peer
  refine (accounts.run inMemory later).letsIn_of_not_isFull listens ?_ peer
  rintro ⟨limit, limited, reached⟩
  have within := accounts.within limit (by rwa [limits, service_run] at limited)
  have fewer := accounts.length_lt_of_freed inMemory noArrivals closed
  omega

end Accounts

/-! ## Between the counter and the verdict -/

theorem replace_append_new {number new : Nat} (isOld : number ≠ new)
    (next connection : Connection) (live : List (Nat × Connection)) :
    replace number next (live ++ [(new, connection)]) =
      replace number next live ++ [(new, connection)] := by
  simp [replace, isOld.symm]

theorem drop_append_new {number new : Nat} (isOld : number ≠ new) (connection : Connection)
    (live : List (Nat × Connection)) :
    drop number (live ++ [(new, connection)]) = drop number live ++ [(new, connection)] := by
  have differ : (new != number) = true := by simpa using isOld.symm
  simp [drop, differ]

theorem reaction_judge (server : Server) (peer : Endpoint) (opened : Nat) :
    (server.judge peer opened).1.reaction = server.reaction := by
  unfold judge
  dsimp only
  split <;> rfl

theorem settle_letIn {number : Nat} (isOld : number ≠ server.arrivals) (connection : Connection)
    (peer : Endpoint) :
    (server.letIn peer).settle number connection =
      ((server.settle number connection).1.letIn peer, (server.settle number connection).2) := by
  unfold settle
  split
  · simp [letIn, drop_append_new isOld, limits]
  · simp [letIn, drop_append_new isOld, limits]
  · simp [letIn, replace_append_new isOld, limits]

theorem settle_turnAway (server : Server) (number : Nat) (connection : Connection) :
    server.turnAway.settle number connection =
      ((server.settle number connection).1.turnAway, (server.settle number connection).2) := by
  unfold settle
  split <;> rfl

/-- It makes no difference whether something happens on a connection before or after another, that
has come already, is judged. -/
theorem judge_onConnection {number : Nat} (isOld : number ≠ server.arrivals)
    (react : Connection → Connection × ConnectionOutput) (peer : Endpoint) (opened : Nat) :
    (server.onConnection number react).1.judge peer opened =
        (((server.judge peer opened).1.onConnection number react).1,
          (server.judge peer opened).2) ∧
      ((server.judge peer opened).1.onConnection number react).2 =
        (server.onConnection number react).2 := by
  rcases onConnection_keeps server number react with ⟨counter, live, kept⟩
  have sameLimits : (server.onConnection number react).1.limits = server.limits := by
    rw [limits, kept, limits]
  have sameArrivals : (server.onConnection number react).1.arrivals = server.arrivals := by
    rw [kept]
  have sameService : (server.onConnection number react).1.service = server.service := by
    rw [kept]
  simp only [judge, sameLimits, sameArrivals, sameService]
  cases Admission.verdict server.limits.maxConnections opened with
  | admitted =>
      have sameFound : (server.letIn peer).live.lookup number = server.live.lookup number :=
        lookup_append_new isOld _ _
      cases found : server.live.lookup number with
      | none => simp [onConnection, sameFound, found]
      | some connection => simp [onConnection, sameFound, found, settle_letIn isOld]
  | turnedAway opened limit =>
      have sameFound : server.turnAway.live.lookup number = server.live.lookup number := rfl
      cases found : server.live.lookup number with
      | none => simp [onConnection, sameFound, found]
      | some connection => simp [onConnection, sameFound, found, settle_turnAway]

/-- A run between the counter and the verdict is as good as one behind the verdict. -/
theorem judge_run {events : List ServerEvent} (onOld : ∀ event ∈ events,
      ∃ number, event.target? = some number ∧ number < server.arrivals)
    (peer : Endpoint) (opened : Nat) :
    (server.run events).1.judge peer opened =
        (((server.judge peer opened).1.run events).1, (server.judge peer opened).2) ∧
      ((server.judge peer opened).1.run events).2 = (server.run events).2 := by
  induction events generalizing server with
  | nil => exact ⟨rfl, rfl⟩
  | cons event rest ih =>
      rcases onOld event List.mem_cons_self with ⟨number, target, came⟩
      rcases judge_onConnection (Nat.ne_of_lt came) (server.reaction event) peer opened
        with ⟨sameState, sameEffects⟩
      have judgedStep : (server.judge peer opened).1.step event =
          (server.judge peer opened).1.onConnection number (server.reaction event) := by
        rw [step_of_target target, reaction_judge]
      rw [← step_of_target target, ← judgedStep] at sameState sameEffects
      have sameArrivals : (server.step event).1.arrivals = server.arrivals := by
        rcases onConnection_keeps server number (server.reaction event) with ⟨_, _, kept⟩
        rw [step_of_target target, kept]
      have onOldRest : ∀ other ∈ rest, ∃ number,
          other.target? = some number ∧ number < (server.step event).1.arrivals := by
        intro other mem
        rw [sameArrivals]
        exact onOld other (List.mem_cons_of_mem event mem)
      rcases ih onOldRest with ⟨restState, restEffects⟩
      rw [sameState] at restState restEffects
      exact ⟨restState, congrArg₂ (· ++ ·) sameEffects restEffects⟩

theorem verdictMayWait (listens : server.listens = true) (peer : Endpoint) :
    server.VerdictMayWait peer := by
  intro meanwhile onOld
  have comes : server.step (.arrival peer) = server.raise.judge peer server.counter := by
    rw [step, arrive, if_pos listens]
  have onOldRaised : ∀ event ∈ meanwhile,
      ∃ number, event.target? = some number ∧ number < server.raise.arrivals := onOld
  rw [comes]
  exact judge_run onOldRaised peer server.counter

/-! ## Runs -/

/-- In every run the counter is the number of the live connections, and these are the connections
that have come and have not been closed. One that comes is turned away exactly if they are as many
as the settings allow, whatever happens on the others before the verdict; the warning about it is
written unless the level is below warnings. Once a connection has been closed the next is let in. -/
theorem run_accounts {service : Service} (inMemory : service.catalogue.InMemory)
    (events : List ServerEvent) :
    let server := ((start service).run events).1
    server.Accounts ((start service).run events).2 ∧
      (server.listens = true → ∀ peer,
        (server.TurnsAway peer ↔ server.IsFull) ∧ (server.LetsIn peer ↔ ¬server.IsFull) ∧
          server.VerdictMayWait peer) ∧
      server.FreesPlaces ∧
      ∀ peer opened limit outputs writer,
        Journal.write ⟨outputs, some writer⟩ (.turnedAway peer opened limit) =
          ⟨if writer.level = .error then outputs
            else outputs.write writer.error
              (Utf8.encode (Message.turnedAway peer opened limit).text ++ [0x0A]),
            some writer⟩ := by
  intro server
  have accounts : server.Accounts ((start service).run events).2 :=
    (accounts_start service).run inMemory events
  have inMemoryStill : server.service.catalogue.InMemory := by
    rw [service_run]
    exact inMemory
  refine ⟨accounts, ?_, accounts.freesPlaces inMemoryStill, ?_⟩
  · intro listens peer
    exact ⟨accounts.turnsAway_iff_isFull listens peer, accounts.letsIn_iff_not_isFull listens peer,
      verdictMayWait listens peer⟩
  · intro peer opened limit outputs writer
    exact Journal.write_warning rfl outputs writer

/-- With one place, a second connection is turned away until the first has ended. -/
theorem run_accounts_one_place :
    let service : Service :=
      { settings :=
          { server := ⟨"127.0.0.1", 80, none⟩
            logging := ⟨"info", true, "combined", none, none⟩
            performance := ⟨75, 30, 30, some 1⟩
            http := ⟨.collapse⟩ }
        catalogue := ⟨[("/", ⟨[], "text/plain"⟩)]⟩ }
    let peer : Endpoint := ⟨.v4 ⟨127, 0, 0, 1⟩, 40000⟩
    let server := ((start service).run [.arrival peer]).1
    service.catalogue.InMemory ∧ server.Accounts ((start service).run [.arrival peer]).2 ∧
      server.TurnsAway peer ∧ (server.run [.endOfInput 0]).1.LetsIn peer := by
  intro service peer server
  have inMemory : service.catalogue.InMemory := by decide
  rcases run_accounts inMemory [.arrival peer] with ⟨accounts, arrivals, freed, -⟩
  refine ⟨inMemory, accounts, ?_, ?_⟩
  · exact (arrivals rfl peer).1.mpr ⟨1, rfl, rfl⟩
  · exact freed [.endOfInput 0] (by simp) rfl 0 (by decide) (by decide) peer

end Server

end RangeServer
