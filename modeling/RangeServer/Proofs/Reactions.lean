import RangeServer.Proofs.FaultFree
import RangeServer.Server.Connection

/-!
# What connections do

A connection reacts to the bytes that it receives, to the end of its input, to silence, to failures
and to the closing of the server. The lemmas on `Connection.serve` say by the stage of reading what
comes of the bytes that have been received, so that no later proof opens its recursion. What holds
of every reaction is that it does not end in a fault, for the service answers every request.
-/

namespace RangeServer

namespace Connection

variable {service : Service} {connection : Connection}

@[simp]
theorem isLive_finish (connection : Connection) : connection.finish.isLive = false := rfl

@[simp]
theorem stage_finish (connection : Connection) : connection.finish.stage = .ended := rfl

theorem isLive_iff : connection.isLive = true ↔
    connection.stage ≠ .ended ∧ connection.stage ≠ .crashed := by
  cases stage : connection.stage <;> simp [isLive, stage]

/-! ## Answers -/

/-- The connection behind an answer, given the bytes behind the head of the request. -/
def after (connection : Connection) (framed : FramedRequest) (rest : Bytes) : Connection :=
  match behindBody? framed.body rest with
  | some rest =>
    if connection.mayStay && framed.staysOpen then
      { connection with stage := .kept, received := rest }
    else connection.finish
  | none => connection.finish

theorem answer_of_answers (connection : Connection) {framed : FramedRequest} {response : Response}
    (answers : service.Answers framed.request response) (timing : Timing) (rest : Bytes) :
    ∃ messages, answer service timing connection framed rest =
      .ok (connection.after framed rest,
        ⟨[.ofResponse response framed.request (connection.mayStay && framed.staysOpen)],
          messages⟩) := by
  rcases answers ⟨framed.request, connection.peer, timing.received, timing.microseconds⟩ rfl with
    ⟨messages, handled⟩
  refine ⟨messages, ?_⟩
  simp only [answer, handled, bind, Except.bind, pure, Except.pure, after]
  cases behindBody? framed.body rest with
  | none => rfl
  | some rest =>
      dsimp only
      split <;> rfl

/-! ## Bytes that have been received -/

theorem serve_of_not_live (notLive : connection.isLive = false) (timing : Timing) :
    serve service timing connection = (connection, .nothing) := by
  rw [serve, notLive]
  rfl

theorem serve_of_incomplete (incomplete : FramedRequest.read connection.received = .incomplete)
    (timing : Timing) : serve service timing connection = (connection, .nothing) := by
  rw [serve, incomplete]
  simp

theorem serve_of_refused (live : connection.isLive = true) {fault : HeadFault}
    (refused : FramedRequest.read connection.received = .refused fault) (timing : Timing) :
    serve service timing connection =
      (connection.finish, ⟨[.ofFault fault], [.failed (faultDetails fault)]⟩) := by
  rw [serve, live, refused]
  rfl

theorem received_ne_nil_of_complete {framed : FramedRequest} {rest : Bytes}
    (complete : FramedRequest.read connection.received = .complete framed rest) :
    connection.received ≠ [] := by
  intro nothing
  rw [nothing] at complete
  cases complete

/-- A request is answered, and then what stands behind it. -/
theorem serve_of_complete (live : connection.isLive = true) {framed : FramedRequest} {rest : Bytes}
    (complete : FramedRequest.read connection.received = .complete framed rest)
    (shorter : (connection.after framed rest).received.length < connection.received.length)
    {response : Response} (answers : service.Answers framed.request response) (timing : Timing) :
    ∃ messages, serve service timing connection =
      ((serve service timing (connection.after framed rest)).1,
        ConnectionOutput.andThen
          ⟨[.ofResponse response framed.request (connection.mayStay && framed.staysOpen)],
            messages⟩
          (serve service timing (connection.after framed rest)).2) := by
  rcases answer_of_answers connection answers timing rest with
    ⟨messages, answered⟩
  refine ⟨messages, ?_⟩
  rw [serve, live, complete]
  simp [answered, shorter]

/-- A request whose answer is the last one; what stands behind it is not looked at. -/
theorem serve_of_last (live : connection.isLive = true) {framed : FramedRequest} {rest : Bytes}
    (complete : FramedRequest.read connection.received = .complete framed rest)
    (last : connection.after framed rest = connection.finish) {response : Response}
    (answers : service.Answers framed.request response) (timing : Timing) :
    ∃ messages, serve service timing connection =
      (connection.finish,
        ⟨[.ofResponse response framed.request (connection.mayStay && framed.staysOpen)],
          messages⟩) := by
  have shorter : (connection.after framed rest).received.length < connection.received.length := by
    rw [last]
    exact List.length_pos_of_ne_nil (received_ne_nil_of_complete complete)
  rcases serve_of_complete live complete shorter answers timing with ⟨messages, served⟩
  refine ⟨messages, ?_⟩
  rw [served, last, serve_of_not_live (isLive_finish connection)]
  simp [ConnectionOutput.andThen, ConnectionOutput.nothing]

/-! ## No faults -/

theorem stage_after_ne_crashed (connection : Connection) (framed : FramedRequest) (rest : Bytes) :
    (connection.after framed rest).stage ≠ .crashed := by
  unfold after
  split
  · split <;> simp
  · simp

theorem stage_ne_crashed_of_answer (inMemory : service.catalogue.InMemory) {timing : Timing}
    {framed : FramedRequest} {rest : Bytes} {result : Checked (Connection × ConnectionOutput)}
    (answered : answer service timing connection framed rest = result) :
    ∃ next output, result = .ok (next, output) ∧ next.stage ≠ .crashed := by
  rcases Service.exists_answers inMemory framed.request with ⟨response, answers⟩
  rcases answer_of_answers connection answers timing rest with
    ⟨messages, isAnswered⟩
  exact ⟨_, _, answered.symm.trans isAnswered, stage_after_ne_crashed connection framed rest⟩

theorem serve_stage_ne_crashed (inMemory : service.catalogue.InMemory) (timing : Timing)
    (notCrashed : connection.stage ≠ .crashed) :
    (serve service timing connection).1.stage ≠ .crashed := by
  fun_induction serve service timing connection with
  | case1 connection notLive => exact notCrashed
  | case2 connection live incomplete => exact notCrashed
  | case3 connection live fault refused => simp
  | case4 connection live framed rest complete fault answered =>
      rcases stage_ne_crashed_of_answer inMemory answered with ⟨_, _, isOk, -⟩
      cases isOk
  | case5 connection live framed rest complete next output answered shorter last more served ih =>
      rcases stage_ne_crashed_of_answer inMemory answered with ⟨_, _, isOk, nextNotCrashed⟩
      cases isOk
      rw [served] at ih
      exact ih nextNotCrashed
  | case6 connection live framed rest complete next output answered notShorter =>
      rcases stage_ne_crashed_of_answer inMemory answered with ⟨_, _, isOk, nextNotCrashed⟩
      cases isOk
      exact nextNotCrashed

/-- Whether a reaction does not end in a fault. -/
def Survives (react : Connection → Connection × ConnectionOutput) : Prop :=
  ∀ connection, connection.stage ≠ .crashed → (react connection).1.stage ≠ .crashed

theorem survives_receive (inMemory : service.catalogue.InMemory) (timing : Timing)
    (bytes : Bytes) : Survives (receive service timing bytes) := by
  intro connection notCrashed
  unfold receive
  split
  · exact serve_stage_ne_crashed inMemory timing notCrashed
  · exact notCrashed

/-- A reaction that ends a live connection, or changes nothing, is no fault. -/
theorem survives_of_finish_or_same {react : Connection → Connection × ConnectionOutput}
    (finishes : ∀ connection,
      (react connection).1 = connection.finish ∨ (react connection).1 = connection) :
    Survives react := by
  intro connection notCrashed
  rcases finishes connection with finished | same
  · rw [finished]
    simp
  · rw [same]
    exact notCrashed

theorem survives_endOfInput : Survives endOfInput := by
  apply survives_of_finish_or_same
  intro connection
  unfold endOfInput
  split <;> simp

theorem survives_timeOut (settings : PerformanceSettings) : Survives (timeOut settings) := by
  apply survives_of_finish_or_same
  intro connection
  unfold timeOut
  split <;> simp

theorem survives_breakDown (details : String) : Survives (breakDown details) := by
  apply survives_of_finish_or_same
  intro connection
  unfold breakDown
  split <;> simp

theorem survives_delayKept (details : String) : Survives (delayKept details) := by
  apply survives_of_finish_or_same
  intro connection
  unfold delayKept
  split <;> simp

theorem survives_notice (isClosing : Bool) : Survives (notice isClosing) := by
  intro connection notCrashed
  unfold notice
  split
  · unfold beginClosing
    split
    · simp
    · simp
    · exact notCrashed
  · exact notCrashed

end Connection

end RangeServer
