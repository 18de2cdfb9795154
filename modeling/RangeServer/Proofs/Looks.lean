import RangeServer.Proofs.ServerSteps

/-!
# The looks of a server

A server that waits for connections looks at its counter from time to time, and works off whatever
else happens between two looks. The looks of a whole run, put one after another, are a wait as
`Drain.wait?` knows it: `Server.run_of_draining` says that the server has come where that wait has
come, and that its log is told of open connections only if the wait comes to `false`.
-/

namespace RangeServer

/-- How far a server has come that waits until a deadline, and what its log has been told, by what
the wait has come to: if the time was over, the log is told of that in a step of its own. -/
inductive WaitOutcome (deadline seconds : Nat) :
    Option Bool → ServerStage → List Message → Prop where
  | waiting : WaitOutcome deadline seconds none (.draining deadline) []
  | drained : WaitOutcome deadline seconds (some true) .stopped []
  | overdue : WaitOutcome deadline seconds (some false) .overdue []
  | complained (opened : Nat) :
    WaitOutcome deadline seconds (some false) .stopped [.graceOver opened seconds]

namespace WaitOutcome

variable {deadline seconds : Nat} {stage : ServerStage} {told : List Message}

theorem stage_cases {result : Option Bool}
    (outcome : WaitOutcome deadline seconds result stage told) :
    stage = .draining deadline ∨ stage = .overdue ∨ stage = .stopped := by
  cases outcome with
  | waiting => exact Or.inl rfl
  | drained => exact Or.inr (Or.inr rfl)
  | overdue => exact Or.inr (Or.inl rfl)
  | complained opened => exact Or.inr (Or.inr rfl)

theorem stage_of_drained (outcome : WaitOutcome deadline seconds (some true) stage told) :
    stage = .stopped := by
  cases outcome
  rfl

end WaitOutcome

/-- A look decides the wait if it finds no connection or comes late enough. -/
theorem Drain.exists_decide?_eq_some {deadline : Nat} {look : Look}
    (isOver : look.count = 0 ∨ deadline ≤ look.clock) :
    ∃ drained, decide? deadline look = some drained := by
  unfold decide?
  split
  · exact ⟨true, rfl⟩
  · rename_i someOpen
    exact ⟨false, if_pos (isOver.resolve_left someOpen)⟩

namespace Server

variable {server : Server} {deadline : Nat}

/-- The look that a server takes at an event. -/
def looksAt (server : Server) : ServerEvent → List Drain.Look
  | .look clock => [⟨server.counter, clock⟩]
  | _ => []

/-- The looks that a server takes while it works off events. -/
def looks (server : Server) : List ServerEvent → List Drain.Look
  | [] => []
  | event :: rest => server.looksAt event ++ (server.step event).1.looks rest

/-- What the log is told of a shutdown while a server works off events. -/
def told (server : Server) : List ServerEvent → List Message
  | [] => []
  | event :: rest => (server.proceed event).2 ++ (server.step event).1.told rest

theorem told_append (server : Server) (earlier later : List ServerEvent) :
    server.told (earlier ++ later) =
      server.told earlier ++ (server.run earlier).1.told later := by
  induction earlier generalizing server with
  | nil => rfl
  | cons event rest ih => rw [List.cons_append, told, told, run, ih, List.append_assoc]

theorem told_of_elsewhere {events : List ServerEvent} (elsewhere : Elsewhere events) :
    server.told events = [] := by
  induction events generalizing server with
  | nil => rfl
  | cons event rest ih =>
      rw [told, proceed_of_elsewhere (elsewhere event List.mem_cons_self),
        ih fun other mem => elsewhere other (List.mem_cons_of_mem event mem)]
      rfl

theorem exists_mem_looks (server : Server) {clock : Nat} {events : List ServerEvent}
    (mem : .look clock ∈ events) : ∃ look ∈ server.looks events, look.clock = clock := by
  induction events generalizing server with
  | nil => cases mem
  | cons event rest ih =>
      rcases List.mem_cons.mp mem with rfl | later
      · exact ⟨⟨server.counter, clock⟩, by simp [looks, looksAt], rfl⟩
      · rcases ih (server.step event).1 later with ⟨look, isLook, sameClock⟩
        exact ⟨look, List.mem_append_right _ isLook, sameClock⟩

/-! ## Before the wait -/

theorem step_shutdown_of_listens (listens : server.listens = true) :
    server.step .shutdown = ({ server with stage := .closing }, []) := by
  have stage : server.stage = .listening := by simpa [Server.listens] using listens
  simp [step, advance, proceed, stage]

theorem step_announce_of_closing (closing : server.stage = .closing) :
    server.step .announce =
      ({ server with stage := .announced }, [.logged (.listenerClosed server.counter)]) := by
  simp [step, advance, proceed, closing]

/-- The steps of a shutdown up to the wait, with what happens between them. -/
theorem announced_run (listens : server.listens = true) {first second : List ServerEvent}
    (firstElsewhere : Elsewhere first) (secondElsewhere : Elsewhere second) :
    (server.run (.shutdown :: first ++ .announce :: second)).1.stage = .announced := by
  have closing : (server.step .shutdown).1.stage = .closing := by
    rw [step_shutdown_of_listens listens]
  have closingStill : ((server.step .shutdown).1.run first).1.stage = .closing := by
    rw [stage_run_of_elsewhere firstElsewhere, closing]
  rw [run_append, run_cons, run_cons, stage_run_of_elsewhere secondElsewhere,
    step_announce_of_closing closingStill]

theorem proceed_beginWait_of_announced (announced : server.stage = .announced) (clock : Nat) :
    server.proceed (.beginWait clock) =
      (.ofDeadline (Drain.deadline clock server.limits.writeTimeout), []) := by
  unfold proceed
  rw [announced]

theorem stage_beginWait_of_announced (announced : server.stage = .announced) {clock deadline : Nat}
    (representable : Drain.deadline clock server.limits.writeTimeout = .ok deadline) :
    (server.step (.beginWait clock)).1.stage = .draining deadline := by
  rw [stage_step, proceed_beginWait_of_announced announced, representable]
  rfl

/-! ## Servers that have stopped -/

/-- A server has stopped or crashed. -/
def IsOver (server : Server) : Prop :=
  server.stage = .stopped ∨ ∃ fault, server.stage = .crashed fault

theorem proceed_of_isOver (isOver : server.IsOver) (event : ServerEvent) :
    server.proceed event = (server.stage, []) := by
  rcases isOver with stopped | ⟨fault, crashed⟩
  · simp [proceed, stopped]
  · simp [proceed, crashed]

/-- A server that is over stays where it is, and tells the log nothing more. -/
theorem run_of_isOver (isOver : server.IsOver) (events : List ServerEvent) :
    (server.run events).1.stage = server.stage ∧ server.told events = [] := by
  induction events generalizing server with
  | nil => exact ⟨rfl, rfl⟩
  | cons event rest ih =>
      have same : (server.step event).1.stage = server.stage := by
        rw [stage_step, proceed_of_isOver isOver]
      have isOverThen : (server.step event).1.IsOver := by
        rw [IsOver, same]
        exact isOver
      rcases ih isOverThen with ⟨stage, silent⟩
      rw [run, told, stage, same, silent, proceed_of_isOver isOver]
      exact ⟨rfl, rfl⟩

theorem run_of_stopped (stopped : server.stage = .stopped) (events : List ServerEvent) :
    (server.run events).1.stage = .stopped ∧ server.told events = [] := by
  rcases run_of_isOver (Or.inl stopped) events with ⟨stage, silent⟩
  exact ⟨stage.trans stopped, silent⟩

/-! ## Servers that wait -/

theorem proceed_look_of_draining (drains : server.stage = .draining deadline) (clock : Nat) :
    server.proceed (.look clock) =
      (.ofWait deadline (Drain.decide? deadline ⟨server.counter, clock⟩), []) := by
  unfold proceed
  rw [drains]

theorem proceed_complain_of_overdue (isOverdue : server.stage = .overdue) :
    server.proceed .complain =
      (.stopped, [.graceOver server.counter server.limits.writeTimeout.toNat]) := by
  unfold proceed
  rw [isOverdue]

theorem stage_complain_of_overdue (isOverdue : server.stage = .overdue) :
    (server.step .complain).1.stage = .stopped := by
  rw [stage_step, proceed_complain_of_overdue isOverdue]

theorem limits_step (server : Server) (event : ServerEvent) :
    (server.step event).1.limits = server.limits := by
  rw [limits, service_step, limits]

/-- After the time is over the only step left is to tell the log of it. -/
theorem run_of_overdue (isOverdue : server.stage = .overdue) (events : List ServerEvent) :
    WaitOutcome deadline server.limits.writeTimeout.toNat (some false)
      (server.run events).1.stage (server.told events) := by
  induction events generalizing server with
  | nil =>
      rw [run, isOverdue]
      exact .overdue
  | cons event rest ih =>
      have stage := stage_step server event
      by_cases complains : event = .complain
      · subst complains
        have proceeds := proceed_complain_of_overdue isOverdue
        rw [proceeds] at stage
        rcases run_of_stopped stage rest with ⟨stopped, silent⟩
        rw [run, told, stopped, silent, proceeds]
        exact .complained server.counter
      · have stays : server.proceed event = (.overdue, []) := by
          unfold proceed
          split <;> simp_all
        rw [stays] at stage
        have rest := ih stage
        rw [limits_step] at rest
        rw [run, told, stays]
        exact rest

/-- A server that waits has come where the wait on its looks has come. -/
theorem run_of_draining (drains : server.stage = .draining deadline)
    (events : List ServerEvent) :
    WaitOutcome deadline server.limits.writeTimeout.toNat
      (Drain.wait? deadline (server.looks events)) (server.run events).1.stage
      (server.told events) := by
  induction events generalizing server with
  | nil =>
      rw [run, drains]
      exact .waiting
  | cons event rest ih =>
      have stage := stage_step server event
      -- What is no look keeps the server draining and the wait undecided, whatever event it is.
      by_cases isLook : ∃ clock, event = .look clock
      · rcases isLook with ⟨clock, rfl⟩
        have proceeds := proceed_look_of_draining drains clock
        rw [proceeds] at stage
        simp only [run, looks, looksAt, told, proceeds, Drain.wait?, List.singleton_append,
          List.findSome?_cons, List.nil_append]
        cases decided : Drain.decide? deadline ⟨server.counter, clock⟩ with
        | none =>
            rw [decided] at stage
            have rest := ih stage
            rw [limits_step] at rest
            exact rest
        | some drained =>
            rw [decided] at stage
            cases drained with
            | true =>
                rcases run_of_stopped stage rest with ⟨stopped, silent⟩
                rw [stopped, silent]
                exact .drained
            | false =>
                have rest : WaitOutcome deadline _ _ _ _ := run_of_overdue stage rest
                rw [limits_step] at rest
                exact rest
      · have stays : server.proceed event = (.draining deadline, []) := by
          unfold proceed
          split <;> simp_all
        have noLook : server.looksAt event = [] := by
          cases event <;> simp_all [looksAt]
        rw [stays] at stage
        have rest := ih stage
        rw [limits_step] at rest
        rw [run, looks, told, noLook, stays]
        exact rest

/-- A wait that is over leads to a stop, if the log is told of it. -/
theorem stage_complain_of_outcome {seconds : Nat} {drained : Bool} {told : List Message}
    (outcome : WaitOutcome deadline seconds (some drained) server.stage told) :
    (server.step .complain).1.stage = .stopped := by
  generalize isStage : server.stage = stage at outcome
  cases outcome with
  | drained => exact (run_of_stopped isStage [.complain]).1
  | overdue => exact stage_complain_of_overdue isStage
  | complained opened => exact (run_of_stopped isStage [.complain]).1

end Server

end RangeServer
