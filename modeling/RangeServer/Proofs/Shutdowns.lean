import RangeServer.Proofs.Closing
import RangeServer.Proofs.Looks
import RangeServer.Proofs.LogKeeping
import RangeServer.Proofs.ParallelSessions

/-!
# Shutdowns

A shutdown is a sequence of steps of the server, and connections go on between any two of them: they
are answered until they notice that the server is closing, and they end before or after the log is
told how many are open. The theorems here say what holds whatever happens in between.
`Server.shutdown_settles` joins what becomes of the connections, of the numbers in the log, and of
the server.
-/

namespace RangeServer

namespace Server

variable {server : Server} {number : Nat}

/-! ## The wait for connections -/

/-- A server waits for connections until a deadline, or has waited for them. -/
def WaitsUntil (server : Server) (deadline : Nat) : Prop :=
  server.stage = .draining deadline ∨ server.stage = .overdue ∨ server.stage = .stopped

theorem WaitsUntil.of_outcome {deadline seconds : Nat} {result : Option Bool}
    {told : List Message} (outcome : WaitOutcome deadline seconds result server.stage told) :
    server.WaitsUntil deadline :=
  outcome.stage_cases

theorem waitsUntil_run {deadline : Nat} (drains : server.stage = .draining deadline)
    (events : List ServerEvent) : (server.run events).1.WaitsUntil deadline :=
  .of_outcome (run_of_draining drains events)

/-- A look after the deadline ends the wait, and so does one that finds no connection. If there is
something to tell the log, the server stops with that. -/
theorem WaitsUntil.stops {deadline : Nat} (waits : server.WaitsUntil deadline) {late : Nat}
    (isOver : server.counter = 0 ∨ deadline ≤ late) :
    (server.run [.look late, .complain]).1.stage = .stopped := by
  have looked : (server.step (.look late)).1.stage = .overdue ∨
      (server.step (.look late)).1.stage = .stopped := by
    rw [stage_step]
    rcases waits with drains | isOverdue | stopped
    · have decides : ∃ drained,
          Drain.decide? deadline ⟨server.counter, late⟩ = some drained :=
        Drain.exists_decide?_eq_some isOver
      rcases decides with ⟨drained, decided⟩
      rw [proceed_look_of_draining drains, decided]
      cases drained with
      | true => exact Or.inr rfl
      | false => exact Or.inl rfl
    · simp [proceed, isOverdue]
    · simp [proceed, stopped]
  rw [run_cons]
  rcases looked with isOverdue | stopped
  · exact stage_complain_of_overdue isOverdue
  · exact (run_of_stopped stopped [.complain]).1

/-! ## What is said of a shutdown -/

/-- Nobody is let in any more, and nothing is seen on a wire that was not there before. -/
def ShutsOut (server : Server) : Prop :=
  ∀ events : List ServerEvent,
    (∀ peer, (server.run events).1.step (.arrival peer) = ((server.run events).1, [.refused])) ∧
      ∀ number ∉ server.numbers, onWire number (server.run events).2 = []

/-- What becomes of each connection. As long as nothing happens on it and it notices nothing, it
stays as it is. When it notices that the server is closing it ends without another response, if it
waits for a request, and any other ends after at most one response more. -/
def SettlesEach (server : Server) : Prop :=
  ∀ (before after : List ServerEvent) (number : Nat) (connection : Connection),
    ((number, connection) ∈ server.live → (∀ event ∈ before, event.target? ≠ some number) →
      (number, connection) ∈ (server.run before).1.live ∧
        onWire number (server.run before).2 = []) ∧
    ((number, connection) ∈ (server.run before).1.live →
      let seen := onWire number ((server.run before).1.run (.notice number :: after)).2
      (connection.received = [] → seen = [.closed number]) ∧ EndsAfterOne number seen)

/-- A server that begins to wait for connections waits until a deadline: it does not crash, and it
stops after a look that comes late enough or finds no connection. -/
def ReturnsAfter (server : Server) (clock deadline : Nat) : Prop :=
  ∀ between : List ServerEvent, Elsewhere between →
    let waiting := ((server.run between).1.step (.beginWait clock)).1
    waiting.stage = .draining deadline ∧
      ∀ events : List ServerEvent,
        let course := (waiting.run events).1
        course.WaitsUntil deadline ∧
          ∀ late, course.live = [] ∨ deadline ≤ late →
            (course.run [.look late, .complain]).1.stage = .stopped

/-- A server that begins to wait without a grace stops after its first look, and the log is warned
exactly if a connection is live at this look. Connections may end before it, and then before the
warning, which tells how many are live when it is written. -/
def WarnsOfLive (server : Server) (clock : Nat) : Prop :=
  ∀ first second third rest : List ServerEvent,
    Elsewhere first → Elsewhere second → Elsewhere third → ∀ late, clock ≤ late →
      let untilLook := first ++ .beginWait clock :: second
      let untilWarning := untilLook ++ .look late :: third
      let live := (server.run untilLook).1.live
      let events := untilWarning ++ .complain :: rest
      (server.run events).1.stage = .stopped ∧
        server.told events =
          (if live = [] then [] else [.graceOver (server.run untilWarning).1.live.length 0]) ∧
        live.length + (closings (server.run untilLook).2).length = server.live.length

/-! ## Connections -/

variable {past : List ServerEffect}

theorem shutsOut_of_not_listens (notListening : server.listens = false) : server.ShutsOut := by
  intro events
  constructor
  · intro peer
    exact arrive_of_not_listens (listens_run_of_not_listens notListening events) peer
  · intro number missing
    exact onWire_run_of_gone (spares_of_not_listens notListening number)
      (lookup_eq_none_of_not_mem missing) events

theorem settlesEach_of_not_listens (inMemory : server.service.catalogue.InMemory)
    (accounts : server.Accounts past) (notListening : server.listens = false) :
    server.SettlesEach := by
  intro before after number connection
  constructor
  · intro mem untouched
    have found := lookup_of_mem accounts.distinct mem
    rcases run_elsewhere (spares_of_not_listens notListening number) untouched with
      ⟨sameFound, silent⟩
    exact ⟨mem_of_lookup (sameFound.trans found), silent⟩
  · intro mem seen
    have accountsThen := accounts.run inMemory before
    have found := lookup_of_mem accountsThen.distinct mem
    have live : connection.isLive = true := accountsThen.alive _ mem
    have notListeningThen := listens_run_of_not_listens notListening before
    have inMemoryThen : (server.run before).1.service.catalogue.InMemory := by
      rw [service_run]
      exact inMemory
    exact ⟨fun idle => onWire_notice_of_idle notListeningThen found live idle after,
      endsAfterOne_notice notListeningThen found live inMemoryThen after⟩

/-! ## The server -/

theorem returnsAfter_of_announced (inMemory : server.service.catalogue.InMemory)
    (accounts : server.Accounts past) (announced : server.stage = .announced)
    {clock deadline : Nat}
    (representable : Drain.deadline clock server.limits.writeTimeout = .ok deadline) :
    server.ReturnsAfter clock deadline := by
  intro between elsewhere waiting
  have announcedStill : (server.run between).1.stage = .announced := by
    rw [stage_run_of_elsewhere elsewhere, announced]
  have sameLimits : (server.run between).1.limits = server.limits := by
    rw [limits, service_run, limits]
  rw [← sameLimits] at representable
  have drains : waiting.stage = .draining deadline :=
    stage_beginWait_of_announced announcedStill representable
  refine ⟨drains, ?_⟩
  intro events course
  have waits : course.WaitsUntil deadline := waitsUntil_run drains events
  have courseIs : course = (server.run (between ++ .beginWait clock :: events)).1 := by
    rw [run_append]
    rfl
  have accountsThen := accounts.run inMemory (between ++ .beginWait clock :: events)
  rw [← courseIs] at accountsThen
  refine ⟨waits, ?_⟩
  intro late isOver
  apply waits.stops
  rw [accountsThen.counted]
  exact isOver.imp_left fun noneLive => by rw [noneLive, List.length_nil]

theorem deadline_eq_clock {clock deadline : Nat}
    (representable : Drain.deadline clock 0 = .ok deadline) : deadline = clock := by
  unfold Drain.deadline at representable
  dsimp only at representable
  split at representable
  · cases representable
    simp
  · cases representable

/-- The beginning of a wait, with what happens before and after it. -/
theorem draining_of_announced (announced : server.stage = .announced) {clock deadline : Nat}
    (representable : Drain.deadline clock server.limits.writeTimeout = .ok deadline)
    {first second : List ServerEvent} (firstElsewhere : Elsewhere first)
    (secondElsewhere : Elsewhere second) :
    (server.run (first ++ .beginWait clock :: second)).1.stage = .draining deadline ∧
      server.told (first ++ .beginWait clock :: second) = [] := by
  have announcedStill : (server.run first).1.stage = .announced := by
    rw [stage_run_of_elsewhere firstElsewhere, announced]
  have sameLimits : (server.run first).1.limits = server.limits := by
    rw [limits, service_run, limits]
  rw [← sameLimits] at representable
  have drains := stage_beginWait_of_announced announcedStill representable
  have silent : ((server.run first).1.proceed (.beginWait clock)).2 = [] := by
    rw [proceed_beginWait_of_announced announcedStill]
  constructor
  · rw [run_append, run_cons, stage_run_of_elsewhere secondElsewhere, drains]
  · rw [told_append, told_of_elsewhere firstElsewhere, told, silent,
      told_of_elsewhere secondElsewhere]
    rfl

/-- A look that comes late enough ends the wait, silently. -/
theorem run_look_of_late {deadline late : Nat} (drains : server.stage = .draining deadline)
    (isLate : deadline ≤ late) {third : List ServerEvent} (elsewhere : Elsewhere third) :
    (server.run (.look late :: third)).1.stage =
        (if server.counter = 0 then .stopped else .overdue) ∧
      server.told (.look late :: third) = [] := by
  have proceeds : server.proceed (.look late) =
      (if server.counter = 0 then .stopped else .overdue, []) := by
    rw [proceed_look_of_draining drains]
    by_cases noneOpen : server.counter = 0
    · simp [Drain.decide?, noneOpen, ServerStage.ofWait]
    · simp [Drain.decide?, noneOpen, isLate, ServerStage.ofWait]
  rw [run_cons, stage_run_of_elsewhere elsewhere, stage_step, told, told_of_elsewhere elsewhere,
    proceeds]
  exact ⟨rfl, rfl⟩

theorem run_complain_of_overdue (isOverdue : server.stage = .overdue) (rest : List ServerEvent) :
    (server.run (.complain :: rest)).1.stage = .stopped ∧
      server.told (.complain :: rest) =
        [.graceOver server.counter server.limits.writeTimeout.toNat] := by
  have stopped := stage_complain_of_overdue isOverdue
  rcases run_of_stopped stopped rest with ⟨stoppedStill, silent⟩
  rw [run_cons, told, silent, proceed_complain_of_overdue isOverdue]
  exact ⟨stoppedStill, rfl⟩

theorem warnsOfLive_of_announced (inMemory : server.service.catalogue.InMemory)
    (accounts : server.Accounts past) (announced : server.stage = .announced) {clock : Nat}
    (representable : Drain.deadline clock server.limits.writeTimeout = .ok clock)
    (noGrace : server.limits.writeTimeout = 0) : server.WarnsOfLive clock := by
  intro first second third rest firstElsewhere secondElsewhere thirdElsewhere late isLate untilLook
    untilWarning live events
  rcases draining_of_announced announced representable firstElsewhere secondElsewhere with
    ⟨drains, silentBefore⟩
  rcases run_look_of_late drains isLate thirdElsewhere with ⟨looked, silentLook⟩
  have accountsLook := accounts.run inMemory untilLook
  have accountsWarning := accounts.run inMemory untilWarning
  have untilWarningIs : server.run untilWarning =
      (((server.run untilLook).1.run (.look late :: third)).1,
        (server.run untilLook).2 ++ ((server.run untilLook).1.run (.look late :: third)).2) :=
    run_append server untilLook (.look late :: third)
  have silent : server.told untilWarning = [] := by
    rw [told_append, silentBefore, silentLook]
    rfl
  have listening : server.listens = false := by simp [listens, announced]
  have counted := accounts.length_add_closings inMemory
    (arrivals_run_of_not_listens listening untilLook)
  have noneOpen_iff : (server.run untilLook).1.counter = 0 ↔ live = [] := by
    rw [accountsLook.counted]
    exact List.length_eq_zero_iff
  rw [run_append, told_append, silent]
  rw [← congrArg (·.1) untilWarningIs] at looked
  by_cases noneLive : live = []
  · rw [if_pos (noneOpen_iff.mpr noneLive)] at looked
    rcases run_of_stopped looked (.complain :: rest) with ⟨stopped, silentThen⟩
    rw [if_pos noneLive]
    exact ⟨stopped, silentThen, counted⟩
  · rw [if_neg (mt noneOpen_iff.mp noneLive)] at looked
    rcases run_complain_of_overdue looked rest with ⟨stopped, tells⟩
    have sameLimits : (server.run untilWarning).1.limits = server.limits := by
      rw [limits, service_run, limits]
    rw [sameLimits, noGrace, accountsWarning.counted] at tells
    rw [if_neg noneLive]
    exact ⟨stopped, tells, counted⟩

/-! ## Shutdowns as a whole -/

/-- Whatever connections do between the steps of a shutdown: nobody is let in any more, and each
live connection ends as `SettlesEach` says. The log is told how many connections are live at that
moment, which are those that were live when listening ended less those that have ended since. If the
clock can show the deadline, the server does not crash, and stops in time. Without a grace it stops
after its first look, and the log is warned exactly if a connection is live at that look. The level
decides whether the two messages are kept. -/
theorem shutdown_settles {service : Service} (inMemory : service.catalogue.InMemory)
    {before first : List ServerEvent} (noShutdown : .shutdown ∉ before)
    (elsewhere : Elsewhere first) (clock : Nat) :
    let server := ((start service).run before).1
    let closing := (server.step .shutdown).1
    let line := (closing.run first).1.step .announce
    let live := (closing.run first).1.live
    closing.live = server.live ∧ (server.step .shutdown).2 = [] ∧ closing.ShutsOut ∧
      closing.SettlesEach ∧
      line.1.live = live ∧ line.2 = [.logged (.listenerClosed live.length)] ∧
      live.length + (closings (closing.run first).2).length = server.live.length ∧
      (∀ deadline, Drain.deadline clock service.settings.performance.writeTimeout = .ok deadline →
        line.1.ReturnsAfter clock deadline ∧
          (service.settings.performance.writeTimeout = 0 → line.1.WarnsOfLive clock)) ∧
      ∀ opened seconds outputs writer,
        Journal.write ⟨outputs, some writer⟩ (.listenerClosed opened) =
          ⟨if writer.level = .info then
              outputs.write writer.access
                (Utf8.encode (Message.listenerClosed opened).text ++ [0x0A])
            else outputs, some writer⟩ ∧
        Journal.write ⟨outputs, some writer⟩ (.graceOver opened seconds) =
          ⟨if writer.level = .error then outputs
            else outputs.write writer.error
              (Utf8.encode (Message.graceOver opened seconds).text ++ [0x0A]), some writer⟩ := by
  intro server closing line live
  have accounts : server.Accounts ((start service).run before).2 :=
    (accounts_start service).run inMemory before
  have inMemoryHere : server.service.catalogue.InMemory := by
    rw [service_run]
    exact inMemory
  have listening : server.listens = true := listens_run_of_no_shutdown rfl noShutdown
  have closes : server.step .shutdown = ({ server with stage := .closing }, []) :=
    step_shutdown_of_listens listening
  have closingIs : closing = { server with stage := .closing } := congrArg (·.1) closes
  have accountsClosing := accounts.step inMemoryHere .shutdown
  have inMemoryClosing : closing.service.catalogue.InMemory := by
    rw [service_step]
    exact inMemoryHere
  have notListening : closing.listens = false := by
    rw [closingIs]
    rfl
  have stageLine : (closing.run first).1.stage = .closing := by
    rw [stage_run_of_elsewhere elsewhere, closingIs]
  have accountsFirst := accountsClosing.run inMemoryClosing first
  have inMemoryFirst : (closing.run first).1.service.catalogue.InMemory := by
    rw [service_run]
    exact inMemoryClosing
  have announces : line = ({ (closing.run first).1 with stage := .announced },
      [.logged (.listenerClosed (closing.run first).1.counter)]) :=
    step_announce_of_closing stageLine
  have announced : line.1.stage = .announced := by rw [announces]
  have sameLimits : line.1.limits = service.settings.performance := by
    rw [limits, service_step, service_run, service_step, service_run]
    rfl
  have accountsLine := accountsFirst.step inMemoryFirst .announce
  have inMemoryLine : line.1.service.catalogue.InMemory := by
    rw [service_step]
    exact inMemoryFirst
  refine ⟨?_, ?_, ?_, ?_, ?_, ?_, ?_, ?_, ?_⟩
  · rw [closingIs]
  · rw [closes]
  · exact shutsOut_of_not_listens notListening
  · exact settlesEach_of_not_listens inMemoryClosing accountsClosing notListening
  · rw [announces]
  · rw [announces, accountsFirst.counted]
  · have counted := accountsClosing.length_add_closings inMemoryClosing
      (arrivals_run_of_not_listens notListening first)
    rw [counted, closingIs]
  · intro deadline representable
    rw [← sameLimits] at representable ⊢
    refine ⟨returnsAfter_of_announced inMemoryLine accountsLine announced representable, ?_⟩
    intro noGrace
    have isNow : deadline = clock := by
      rw [noGrace] at representable
      exact deadline_eq_clock representable
    rw [isNow] at representable
    exact warnsOfLive_of_announced inMemoryLine accountsLine announced representable noGrace
  · intro opened seconds outputs writer
    exact ⟨Journal.write_info rfl outputs writer, Journal.write_warning rfl outputs writer⟩

/-- Two connections wait for a first request when listening ends. One notices it before the log is
told of the other, which stays until the grace of no seconds is over. -/
theorem shutdown_settles_idle :
    let service : Service :=
      { settings :=
          { server := ⟨"127.0.0.1", 80, none⟩
            logging := ⟨"info", true, "combined", none, none⟩
            performance := ⟨75, 30, 0, none⟩
            http := ⟨.collapse⟩ }
        catalogue := ⟨[("/", ⟨[104, 105], "text/plain"⟩)]⟩ }
    let peer : Endpoint := ⟨.v4 ⟨127, 0, 0, 1⟩, 40000⟩
    let before : List ServerEvent := [.arrival peer, .arrival peer]
    let closing := (((start service).run before).1.step .shutdown).1
    let line := (closing.run [.notice 0]).1.step .announce
    let events : List ServerEvent := [.beginWait 5, .look 5, .complain]
    service.catalogue.InMemory ∧ .shutdown ∉ before ∧ Elsewhere [.notice 0] ∧
      Drain.deadline 5 0 = .ok 5 ∧
      onWire 0 (closing.run [.notice 0]).2 = [.closed 0] ∧
      line.2 = [.logged (.listenerClosed 1)] ∧
      (line.1.run events).1.stage = .stopped ∧ line.1.told events = [.graceOver 1 0] := by
  intro service peer before closing line events
  have inMemory : service.catalogue.InMemory := by decide
  have noShutdown : .shutdown ∉ before := by decide
  have elsewhere : Elsewhere [.notice 0] := by simp [Elsewhere, ServerEvent.isOfShutdown]
  have nothing : Elsewhere [] := by simp [Elsewhere]
  have representable : Drain.deadline 5 0 = .ok 5 := by decide
  rcases shutdown_settles inMemory noShutdown elsewhere 5 with
    ⟨-, -, -, settles, -, announces, -, waits, -⟩
  have mem : (0, Connection.start service.settings.performance peer) ∈ (closing.run []).1.live :=
    List.mem_cons_self
  have closed := ((settles [] [] 0 _).2 mem).1 rfl
  rcases (waits 5 representable).2 rfl [] [] [] [] nothing nothing nothing 5 (Nat.le_refl 5) with
    ⟨stopped, tells, -⟩
  exact ⟨inMemory, noShutdown, elsewhere, representable, closed, announces, stopped, tells⟩

/-- A connection that waits for a request may be answered one before it notices that the server is
closing. -/
theorem onWire_of_late_notice (server : Server) (number : Nat) (plain : PlainRequest)
    {respond : Request → Response}
    (answers : ∀ request, server.service.Answers request (respond request))
    (notListening : server.listens = false) {connection : Connection}
    (found : server.live.lookup number = some connection) (live : connection.isLive = true)
    (idle : connection.received = [])
    (stays : (connection.mayStay && Framing.staysOpen plain.request) = true) (timing : Timing)
    (later : List ServerEvent) :
    onWire number (server.run
      (.segment number plain.bytes timing :: .notice number :: later)).2 =
        [.sent number (.ofResponse (respond plain.request) plain.request true),
          .closed number] := by
  have isStream : connection.received ++ plain.bytes = streamOf [plain] ++ [] := by
    simp [idle, streamOf]
  have longerLive : ({ connection with received := connection.received ++ plain.bytes } :
      Connection).isLive = true := live
  have received : Connection.receive server.service timing plain.bytes connection =
      Connection.serve server.service timing
        { connection with received := connection.received ++ plain.bytes } := if_pos live
  rcases Connection.serve_plain answers longerLive (Or.inl rfl) isStream timing with
    ⟨sent, isLive, remains⟩
  have items : answered connection.mayStay ([plain].map (·.request)) = [(plain.request, true)] :=
    answered_of_stays stays []
  rw [← received] at sent isLive remains
  simp only [items] at sent isLive remains
  have settled := onConnection_self found
    (server.reaction (.segment number plain.bytes timing))
  rw [← step_of_target rfl] at settled
  have liveThen : (Connection.receive server.service timing plain.bytes connection).1.isLive =
      true := isLive
  have reactsThen : server.reaction (.segment number plain.bytes timing) =
      Connection.receive server.service timing plain.bytes := rfl
  rw [reactsThen, left, reacted, if_pos liveThen, if_pos liveThen, sent] at settled
  rw [run_cons, onWire_append, settled.2,
    onWire_notice_of_idle (listens_step_of_not_listens notListening _) settled.1 liveThen
      (remains rfl).2 later]
  rfl

/-- Without a grace a connection may be counted in the log and end before the first look, and then
there is no warning. Nor is there one in a log that keeps errors only, however many are counted. And
a connection that waits for a request when listening ends may be answered before it notices. -/
theorem shutdown_unwarned :
    let service : Service :=
      { settings :=
          { server := ⟨"127.0.0.1", 80, none⟩
            logging := ⟨"info", true, "combined", none, none⟩
            performance := ⟨75, 30, 0, none⟩
            http := ⟨.collapse⟩ }
        catalogue := ⟨[("/", ⟨[104, 105], "text/plain"⟩)]⟩ }
    let peer : Endpoint := ⟨.v4 ⟨127, 0, 0, 1⟩, 40000⟩
    let events : List ServerEvent :=
      [.arrival peer, .shutdown, .announce, .notice 0, .beginWait 5, .look 5, .complain]
    ((start service).run events).1.stage = .stopped ∧
      (start service).told events = [.listenerClosed 1] ∧
      (Journal.write ⟨⟨[], [], ⟨[], []⟩⟩, some ⟨.output, .errorOutput, .error⟩⟩
        (.graceOver 3 0)).outputs.errorOutput = [] ∧
      ∃ response, onWire 0 ((start service).run [.arrival peer, .shutdown,
        .segment 0 PlainRequest.getRoot.bytes ⟨⟨0, 0, 0⟩, 0⟩, .notice 0]).2 =
          [.sent 0 response, .closed 0] := by
  intro service peer events
  refine ⟨by decide, by decide, by decide, ?_⟩
  have inMemory : service.catalogue.InMemory := by decide
  choose respond answers using fun request => Service.exists_answers inMemory request
  let closing := ((start service).run [.arrival peer, .shutdown]).1
  have stays : Framing.staysOpen PlainRequest.getRoot.request = true := by cbv
  have answered := onWire_of_late_notice closing 0 .getRoot answers rfl rfl rfl rfl
    (by rw [stays]; rfl) ⟨⟨0, 0, 0⟩, 0⟩ []
  exact ⟨_, answered⟩

end Server

end RangeServer
