import RangeServer.Proofs.Reactions
import RangeServer.Server.Run

/-!
# What an event changes

Most events are about one connection: it reacts, and the server settles what has become of it. All
other events are about the server: a connection comes, or a shutdown goes on. `Server.Stepped` says
once what each of them comes to, so that the theorems on runs need not open `Server.step`.
-/

namespace RangeServer

namespace ServerEvent

/-- The connection that an event is about. -/
def target? : ServerEvent → Option Nat
  | .segment number _ _ => some number
  | .endOfInput number => some number
  | .timeOut number => some number
  | .delayKept number _ => some number
  | .breakDown number _ => some number
  | .notice number => some number
  | _ => none

/-- Whether an event is a step of the shutdown. -/
def isOfShutdown : ServerEvent → Bool
  | .shutdown => true
  | .announce => true
  | .beginWait _ => true
  | .look _ => true
  | .complain => true
  | _ => false

/-- What an event does to the connection that it is about, on a server that may be closing. -/
def reaction (service : Service) (isClosing : Bool) :
    ServerEvent → Connection → Connection × ConnectionOutput
  | .segment _ bytes timing => Connection.receive service timing bytes
  | .endOfInput _ => Connection.endOfInput
  | .timeOut _ => Connection.timeOut service.settings.performance
  | .delayKept _ details => Connection.delayKept details
  | .breakDown _ details => Connection.breakDown details
  | .notice _ => Connection.notice isClosing
  | _ => fun connection => (connection, .nothing)

theorem survives_reaction {service : Service} (inMemory : service.catalogue.InMemory)
    (isClosing : Bool) (event : ServerEvent) :
    Connection.Survives (event.reaction service isClosing) := by
  cases event with
  | segment number bytes timing => exact Connection.survives_receive inMemory timing bytes
  | endOfInput number => exact Connection.survives_endOfInput
  | timeOut number => exact Connection.survives_timeOut _
  | delayKept number details => exact Connection.survives_delayKept details
  | breakDown number details => exact Connection.survives_breakDown details
  | notice number => exact Connection.survives_notice isClosing
  | _ => exact fun connection notCrashed => notCrashed

end ServerEvent

namespace Server

variable {server : Server}

/-! ## Events about a connection -/

/-- What an event does to the connection that it is about. -/
def reaction (server : Server) (event : ServerEvent) :
    Connection → Connection × ConnectionOutput :=
  event.reaction server.service !server.listens

theorem step_of_target {event : ServerEvent} {number : Nat} (target : event.target? = some number) :
    server.step event = server.onConnection number (server.reaction event) := by
  cases event <;> cases target <;> rfl

theorem onConnection_of_none {number : Nat} (missing : server.live.lookup number = none)
    (react : Connection → Connection × ConnectionOutput) :
    server.onConnection number react = (server, []) := by
  rw [onConnection, missing]

theorem onConnection_of_live {number : Nat} {connection : Connection}
    (found : server.live.lookup number = some connection)
    {react : Connection → Connection × ConnectionOutput}
    (live : (react connection).1.isLive = true) :
    server.onConnection number react =
      ({ server with live := replace number (react connection).1 server.live },
        effects number (react connection).2) := by
  rcases Connection.isLive_iff.mp live with ⟨notEnded, notCrashed⟩
  simp only [onConnection, found, settle]
  cases stage : (react connection).1.stage <;> simp_all

theorem onConnection_of_ended {number : Nat} {connection : Connection}
    (found : server.live.lookup number = some connection)
    {react : Connection → Connection × ConnectionOutput}
    (ended : (react connection).1.stage = .ended) :
    server.onConnection number react =
      ({ server with
          counter := Admission.leave server.counter
          live := drop number server.live },
        effects number (react connection).2 ++ [.closed number]) := by
  simp only [onConnection, found, settle, ended]

/-- Whatever happens on a connection changes nothing else than the counter and what is live. -/
theorem onConnection_keeps (server : Server) (number : Nat)
    (react : Connection → Connection × ConnectionOutput) :
    ∃ counter live, (server.onConnection number react).1 = { server with counter, live } := by
  unfold onConnection
  split
  · exact ⟨_, _, rfl⟩
  · dsimp only [settle]
    split <;> exact ⟨_, _, rfl⟩

/-! ## Connections that come -/

theorem arrive_of_not_listens (notListening : server.listens = false) (peer : Endpoint) :
    server.arrive peer = (server, [.refused]) := by
  simp [arrive, notListening]

theorem arrive_of_admitted (listens : server.listens = true)
    (verdict : Admission.verdict server.limits.maxConnections server.counter = .admitted)
    (peer : Endpoint) :
    server.arrive peer = (server.raise.letIn peer,
      (Admission.messages peer server.service.logsAccess .admitted).map .logged) := by
  have raised :
      Admission.verdict server.raise.limits.maxConnections server.counter = .admitted := verdict
  rw [arrive, if_pos listens, judge, raised]
  rfl

theorem arrive_of_turnedAway (listens : server.listens = true) {opened limit : Nat}
    (verdict : Admission.verdict server.limits.maxConnections server.counter =
      .turnedAway opened limit) (peer : Endpoint) :
    server.arrive peer = ({ server with arrivals := server.arrivals + 1 },
      [.logged (.turnedAway peer opened limit), .closed server.arrivals]) := by
  have raised : Admission.verdict server.raise.limits.maxConnections server.counter =
      .turnedAway opened limit := verdict
  rw [arrive, if_pos listens, judge, raised]
  rfl

/-! ## Shutdowns -/

/-- Only the steps of a shutdown lead to another stage or tell the log of it. -/
theorem proceed_of_elsewhere {event : ServerEvent} (elsewhere : event.isOfShutdown = false) :
    server.proceed event = (server.stage, []) := by
  unfold proceed
  split <;> first | rfl | cases elsewhere

/-! ## All events -/

/-- What an event comes to: the server after it, and what the server does. -/
inductive Stepped (server : Server) : ServerEvent → Server × List ServerEffect → Prop where
  | reacts {event : ServerEvent} {number : Nat} (target : event.target? = some number) :
    Stepped server event (server.onConnection number (server.reaction event))
  | refuses {peer : Endpoint} (notListening : server.listens = false) :
    Stepped server (.arrival peer) (server, [.refused])
  | letsIn {peer : Endpoint} (listens : server.listens = true)
    (verdict : Admission.verdict server.limits.maxConnections server.counter = .admitted) :
    Stepped server (.arrival peer) (server.raise.letIn peer,
      (Admission.messages peer server.service.logsAccess .admitted).map .logged)
  | turnsAway {peer : Endpoint} {opened limit : Nat} (listens : server.listens = true)
    (verdict : Admission.verdict server.limits.maxConnections server.counter =
      .turnedAway opened limit) :
    Stepped server (.arrival peer) ({ server with arrivals := server.arrivals + 1 },
      [.logged (.turnedAway peer opened limit), .closed server.arrivals])
  | proceeds {event : ServerEvent} (isOfShutdown : event.isOfShutdown = true) :
    Stepped server event ({ server with stage := (server.proceed event).1 },
      (server.proceed event).2.map .logged)
  | stays {details : String} (messages : List Message) :
    Stepped server (.acceptFailure details) (server, messages.map .logged)

theorem stepped_arrive (server : Server) (peer : Endpoint) :
    server.Stepped (.arrival peer) (server.arrive peer) := by
  cases listens : server.listens with
  | false =>
      rw [arrive_of_not_listens listens]
      exact .refuses listens
  | true =>
      cases verdict : Admission.verdict server.limits.maxConnections server.counter with
      | admitted =>
          rw [arrive_of_admitted listens verdict]
          exact .letsIn listens verdict
      | turnedAway opened limit =>
          rw [arrive_of_turnedAway listens verdict]
          exact .turnsAway listens verdict

/-- Every step is one of these. -/
theorem stepped (server : Server) (event : ServerEvent) :
    server.Stepped event (server.step event) := by
  cases target : event.target? with
  | some number =>
      rw [step_of_target target]
      exact .reacts target
  | none =>
      cases event with
      | arrival peer => exact stepped_arrive server peer
      | acceptFailure details =>
          rw [step]
          split
          · exact .stays [_]
          · exact .stays []
      | shutdown => exact .proceeds rfl
      | announce => exact .proceeds rfl
      | beginWait clock => exact .proceeds rfl
      | look clock => exact .proceeds rfl
      | complain => exact .proceeds rfl
      | _ => cases target

/-- No step changes the service, and what is no arrival does not change how many have come. -/
theorem step_keeps (server : Server) (event : ServerEvent) :
    ∃ stage counter arrivals live,
      (server.step event).1 = { server with stage, counter, arrivals, live } ∧
        server.arrivals ≤ arrivals ∧
        ((∀ peer, event ≠ .arrival peer) → arrivals = server.arrivals) := by
  have stepped := server.stepped event
  generalize server.step event = result at stepped ⊢
  cases stepped with
  | reacts target =>
      rcases onConnection_keeps server _ (server.reaction event) with ⟨counter, live, kept⟩
      exact ⟨_, counter, _, live, kept, Nat.le_refl _, fun _ => rfl⟩
  | refuses notListening => exact ⟨_, _, _, _, rfl, Nat.le_refl _, fun _ => rfl⟩
  | letsIn listens verdict =>
      exact ⟨_, _, _, _, rfl, Nat.le_succ _, fun noArrival => absurd rfl (noArrival _)⟩
  | turnsAway listens verdict =>
      exact ⟨_, _, _, _, rfl, Nat.le_succ _, fun noArrival => absurd rfl (noArrival _)⟩
  | proceeds isOfShutdown => exact ⟨_, _, _, _, rfl, Nat.le_refl _, fun _ => rfl⟩
  | stays messages => exact ⟨_, _, _, _, rfl, Nat.le_refl _, fun _ => rfl⟩

theorem service_step (server : Server) (event : ServerEvent) :
    (server.step event).1.service = server.service := by
  rcases step_keeps server event with ⟨_, _, _, _, kept, -, -⟩
  rw [kept]

theorem arrivals_le_arrivals_step (server : Server) (event : ServerEvent) :
    server.arrivals ≤ (server.step event).1.arrivals := by
  rcases step_keeps server event with ⟨_, _, _, _, kept, more, -⟩
  rw [kept]
  exact more

theorem arrivals_step_of_not_arrival {event : ServerEvent}
    (noArrival : ∀ peer, event ≠ .arrival peer) :
    (server.step event).1.arrivals = server.arrivals := by
  rcases step_keeps server event with ⟨_, _, _, _, kept, -, same⟩
  rw [kept]
  exact same noArrival

theorem proceed_of_target {event : ServerEvent} {number : Nat}
    (target : event.target? = some number) : server.proceed event = (server.stage, []) := by
  apply proceed_of_elsewhere
  cases event <;> cases target <;> rfl

/-- The stage after an event is the one that the event leads to. -/
theorem stage_step (server : Server) (event : ServerEvent) :
    (server.step event).1.stage = (server.proceed event).1 := by
  have stepped := server.stepped event
  generalize server.step event = result at stepped ⊢
  cases stepped with
  | reacts target =>
      rcases onConnection_keeps server _ (server.reaction event) with ⟨_, _, kept⟩
      rw [kept, proceed_of_target target]
  | proceeds isOfShutdown => rfl
  | letsIn listens verdict =>
      rw [proceed_of_elsewhere rfl]
      rfl
  | _ => rw [proceed_of_elsewhere rfl]

theorem stage_step_of_elsewhere {event : ServerEvent} (elsewhere : event.isOfShutdown = false) :
    (server.step event).1.stage = server.stage := by
  rw [stage_step, proceed_of_elsewhere elsewhere]

theorem listens_step_of_not_listens (notListening : server.listens = false)
    (event : ServerEvent) : (server.step event).1.listens = false := by
  have stage : server.stage ≠ .listening := by simpa [listens] using notListening
  have stageThen : (server.proceed event).1 ≠ .listening := by
    unfold proceed
    split
    · simp
    · simp
    · cases Drain.deadline _ _ <;> simp [ServerStage.ofDeadline]
    · cases Drain.decide? _ _ with
      | none => simp [ServerStage.ofWait]
      | some drained => cases drained <;> simp [ServerStage.ofWait]
    · simp
    · exact stage
  simpa [listens, stage_step] using stageThen

theorem listens_step_of_listens (listening : server.listens = true) {event : ServerEvent}
    (noShutdown : event ≠ .shutdown) : (server.step event).1.listens = true := by
  have stage : server.stage = .listening := by simpa [listens] using listening
  have same : (server.proceed event).1 = .listening := by
    unfold proceed
    split <;> simp_all
  simpa [listens, stage_step] using same

/-! ## Runs -/

theorem run_cons (server : Server) (event : ServerEvent) (rest : List ServerEvent) :
    server.run (event :: rest) = (((server.step event).1.run rest).1,
      (server.step event).2 ++ ((server.step event).1.run rest).2) := rfl

theorem run_append (server : Server) (earlier later : List ServerEvent) :
    server.run (earlier ++ later) =
      (((server.run earlier).1.run later).1,
        (server.run earlier).2 ++ ((server.run earlier).1.run later).2) := by
  induction earlier generalizing server with
  | nil => rfl
  | cons event rest ih => simp [run, ih]

theorem service_run (server : Server) (events : List ServerEvent) :
    (server.run events).1.service = server.service := by
  induction events generalizing server with
  | nil => rfl
  | cons event rest ih =>
      rw [run, ih]
      exact service_step server event

theorem arrivals_run_of_no_arrivals {events : List ServerEvent}
    (noArrivals : ∀ peer, .arrival peer ∉ events) :
    (server.run events).1.arrivals = server.arrivals := by
  induction events generalizing server with
  | nil => rfl
  | cons event rest ih =>
      rw [run, ih fun peer mem => noArrivals peer (List.mem_cons_of_mem event mem)]
      exact arrivals_step_of_not_arrival fun peer isArrival =>
        noArrivals peer (isArrival ▸ List.mem_cons_self)

theorem arrivals_run_of_not_listens (notListening : server.listens = false)
    (events : List ServerEvent) : (server.run events).1.arrivals = server.arrivals := by
  induction events generalizing server with
  | nil => rfl
  | cons event rest ih =>
      rw [run, ih (listens_step_of_not_listens notListening event)]
      by_cases isArrival : ∃ peer, event = .arrival peer
      · rcases isArrival with ⟨peer, rfl⟩
        rw [step, arrive_of_not_listens notListening]
      · exact arrivals_step_of_not_arrival fun peer isPeer => isArrival ⟨peer, isPeer⟩

theorem listens_run_of_not_listens (notListening : server.listens = false)
    (events : List ServerEvent) : (server.run events).1.listens = false := by
  induction events generalizing server with
  | nil => exact notListening
  | cons event rest ih => exact ih (listens_step_of_not_listens notListening event)

theorem listens_run_of_no_shutdown (listening : server.listens = true)
    {events : List ServerEvent} (noShutdown : .shutdown ∉ events) :
    (server.run events).1.listens = true := by
  induction events generalizing server with
  | nil => exact listening
  | cons event rest ih =>
      rw [List.mem_cons, not_or] at noShutdown
      exact ih (listens_step_of_listens listening (Ne.symm noShutdown.1)) noShutdown.2

/-- No event is a step of the shutdown: connections go on, and others come. -/
def Elsewhere (events : List ServerEvent) : Prop :=
  ∀ event ∈ events, event.isOfShutdown = false

theorem stage_run_of_elsewhere {events : List ServerEvent} (elsewhere : Elsewhere events) :
    (server.run events).1.stage = server.stage := by
  induction events generalizing server with
  | nil => rfl
  | cons event rest ih =>
      have same : (server.step event).1.stage = server.stage :=
        stage_step_of_elsewhere (elsewhere event List.mem_cons_self)
      rw [run, ih fun other mem => elsewhere other (List.mem_cons_of_mem event mem), same]

end Server

end RangeServer
