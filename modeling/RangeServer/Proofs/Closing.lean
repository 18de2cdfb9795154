import RangeServer.Proofs.OneConnection

/-!
# Connections on a closing server

Once the server has ended listening, each connection notices it at a time of its own. One that waits
for a request then ends at once; one that has begun to receive a request may answer it and ends
then. `Connection.AnswersLast` is what such a connection can still do, whatever happens on it, and
`Server.EndsAfterOne` what can be seen of it in all that follows.
-/

namespace RangeServer

namespace Connection

variable {service : Service} {connection : Connection}

/-- A reaction after which a connection goes on in silence, or has ended with at most one more
response. -/
def AnswersLast (result : Connection × ConnectionOutput) : Prop :=
  (result.1.isLive = true ∧ result.1.mayStay = false ∧ result.2.sent = []) ∨
    (result.1.isLive = false ∧ result.2.sent.length ≤ 1)

theorem after_of_not_mayStay (leaves : connection.mayStay = false) (framed : FramedRequest)
    (rest : Bytes) : connection.after framed rest = connection.finish := by
  unfold after
  rw [leaves]
  cases behindBody? framed.body rest <;> rfl

theorem answersLast_serve (inMemory : service.catalogue.InMemory)
    (live : connection.isLive = true) (leaves : connection.mayStay = false) (timing : Timing) :
    AnswersLast (serve service timing connection) := by
  cases read : FramedRequest.read connection.received with
  | incomplete =>
      rw [serve_of_incomplete read]
      exact Or.inl ⟨live, leaves, rfl⟩
  | refused fault =>
      rw [serve_of_refused live read]
      exact Or.inr ⟨rfl, Nat.le_refl 1⟩
  | complete framed rest =>
      rcases Service.exists_answers inMemory framed.request with ⟨response, answers⟩
      rcases serve_of_last live read (after_of_not_mayStay leaves framed rest) answers timing with
        ⟨messages, served⟩
      rw [served]
      exact Or.inr ⟨rfl, Nat.le_refl 1⟩

/-- A connection that notices that the server is closing ends, if it waits for a request; any other
does so too or answers at most one request more. -/
theorem notice_cases (live : connection.isLive = true) :
    (connection.received = [] ∨ connection.stage = .kept) ∧
        connection.notice true = (connection.finish, .nothing) ∨
      connection.received ≠ [] ∧
        connection.notice true = ({ connection with mayStay := false }, .nothing) := by
  unfold notice beginClosing
  cases stage : connection.stage <;> cases received : connection.received <;>
    simp_all [isLive]

/-- A connection that may not stay answers at most one request more, whatever happens. -/
theorem answersLast_reaction (inMemory : service.catalogue.InMemory)
    (live : connection.isLive = true) (leaves : connection.mayStay = false)
    (event : ServerEvent) : AnswersLast (event.reaction service true connection) := by
  cases event with
  | segment number bytes timing =>
      have longer : ({ connection with received := connection.received ++ bytes } :
          Connection).isLive = true := live
      rw [ServerEvent.reaction, receive, if_pos live]
      exact answersLast_serve inMemory longer leaves timing
  | endOfInput number =>
      rw [ServerEvent.reaction, endOfInput, if_pos live]
      exact Or.inr ⟨rfl, Nat.zero_le 1⟩
  | timeOut number =>
      rw [ServerEvent.reaction, timeOut, if_pos live]
      exact Or.inr ⟨rfl, Nat.zero_le 1⟩
  | breakDown number details =>
      rw [ServerEvent.reaction, breakDown, if_pos live]
      exact Or.inr ⟨rfl, Nat.zero_le 1⟩
  | delayKept number details =>
      rw [ServerEvent.reaction, delayKept, if_pos live]
      exact Or.inl ⟨live, leaves, rfl⟩
  | notice number =>
      rcases notice_cases live with ⟨_, finished⟩ | ⟨_, told⟩
      · rw [ServerEvent.reaction, finished]
        exact Or.inr ⟨rfl, Nat.zero_le 1⟩
      · rw [ServerEvent.reaction, told]
        exact Or.inl ⟨live, rfl, rfl⟩
  | _ => exact Or.inl ⟨live, leaves, rfl⟩

end Connection

namespace Server

variable {server : Server} {number : Nat}

/-! ## Connections after the signal -/

/-- What can be seen of a connection that is to end: nothing yet, or its end after at most one
response. -/
def EndsAfterOne (number : Nat) (effects : List ServerEffect) : Prop :=
  effects = [] ∨ effects = [.closed number] ∨
    ∃ response, effects = [.sent number response, .closed number]

theorem endsAfterOne_run (inMemory : server.service.catalogue.InMemory)
    (notListening : server.listens = false) {connection : Connection}
    (found : server.live.lookup number = some connection) (live : connection.isLive = true)
    (leaves : connection.mayStay = false) (events : List ServerEvent) :
    EndsAfterOne number (onWire number (server.run events).2) := by
  induction events generalizing server connection with
  | nil => exact Or.inl rfl
  | cons event rest ih =>
      have notListeningThen := listens_step_of_not_listens notListening event
      have inMemoryThen : (server.step event).1.service.catalogue.InMemory := by
        rw [service_step]
        exact inMemory
      have isClosing : server.reaction event = event.reaction server.service true := by
        rw [reaction, notListening]
        rfl
      rw [run, onWire_append]
      by_cases here : event.target? = some number
      · have settled := onConnection_self found (server.reaction event)
        rw [← step_of_target here, isClosing] at settled
        rcases Connection.answersLast_reaction inMemory live leaves event with
          ⟨staysLive, stillLeaves, silent⟩ | ⟨ended, atMostOne⟩
        · simp only [left, reacted, staysLive, silent, if_true] at settled
          rw [settled.2]
          exact ih inMemoryThen notListeningThen settled.1 staysLive stillLeaves
        · simp only [left, reacted, ended, Bool.false_eq_true, if_false] at settled
          rw [settled.2,
            onWire_run_of_gone (spares_of_not_listens notListeningThen number) settled.1]
          cases sent : (event.reaction server.service true connection).2.sent with
          | nil => exact Or.inr (Or.inl rfl)
          | cons response more =>
              rw [sent] at atMostOne
              rcases List.eq_nil_of_length_eq_zero (Nat.le_zero.mp
                (Nat.le_of_succ_le_succ atMostOne)) with rfl
              exact Or.inr (Or.inr ⟨response, rfl⟩)
      · rcases step_elsewhere (spares_of_not_listens notListening number) here with
          ⟨sameFound, silent⟩
        rw [silent]
        exact ih inMemoryThen notListeningThen (sameFound.trans found) live leaves

/-! ## Noticing -/

theorem step_notice (notListening : server.listens = false) (number : Nat) :
    server.step (.notice number) = server.onConnection number (Connection.notice true) := by
  rw [step, notListening]
  rfl

section

variable {connection : Connection} (notListening : server.listens = false)
  (found : server.live.lookup number = some connection) (live : connection.isLive = true)

include notListening found live

/-- A connection that waits for a request when it notices that the server is closing ends without
another response. -/
theorem onWire_notice_of_idle (idle : connection.received = []) (later : List ServerEvent) :
    onWire number (server.run (.notice number :: later)).2 = [.closed number] := by
  have ends : connection.notice true = (connection.finish, .nothing) := by
    rcases Connection.notice_cases live with ⟨_, ends⟩ | ⟨begun, _⟩
    · exact ends
    · exact absurd idle begun
  have settled := onConnection_self found (Connection.notice true)
  have notListeningThen := listens_step_of_not_listens notListening (.notice number)
  rw [ends, ← step_notice notListening] at settled
  rw [run, onWire_append, settled.2,
    onWire_run_of_gone (spares_of_not_listens notListeningThen number) settled.1]
  rfl

/-- Any other ends after at most one response more. -/
theorem endsAfterOne_notice (inMemory : server.service.catalogue.InMemory)
    (later : List ServerEvent) :
    EndsAfterOne number (onWire number (server.run (.notice number :: later)).2) := by
  have settled := onConnection_self found (Connection.notice true)
  rw [← step_notice notListening] at settled
  have notListeningThen := listens_step_of_not_listens notListening (.notice number)
  have inMemoryThen : (server.step (.notice number)).1.service.catalogue.InMemory := by
    rw [service_step]
    exact inMemory
  rw [run, onWire_append]
  rcases Connection.notice_cases live with ⟨_, ends⟩ | ⟨_, goesOn⟩
  · rw [ends] at settled
    rw [settled.2, onWire_run_of_gone (spares_of_not_listens notListeningThen number) settled.1]
    exact Or.inr (Or.inl rfl)
  · have liveThen : ({ connection with mayStay := false } : Connection).isLive = true := live
    rw [goesOn, left, reacted, if_pos liveThen, if_pos liveThen] at settled
    rw [settled.2]
    exact endsAfterOne_run inMemoryThen notListeningThen settled.1 liveThen rfl later

end

end Server

end RangeServer
