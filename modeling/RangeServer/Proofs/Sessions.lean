import RangeServer.Proofs.OneConnection
import RangeServer.Proofs.PlainRequests

/-!
# Sessions

A client sends plain requests one behind the other, cut as it likes, and gets the responses of the
service to them, in their order. How many it gets is settled by the requests alone: the session ends
with the first that does not leave the connection open. Of the bytes that have come, all complete
requests are answered and the beginning of the next is kept: `Connection.serve_plain` for all that a
connection has received, and from it `Connection.receive_stream` for what has come since the last
time.
-/

namespace RangeServer

/-- Requests that are answered, each with whether its answer leaves the connection open: all up to
the first whose answer does not. -/
def answered (mayStay : Bool) : List Request → List (Request × Bool)
  | [] => []
  | request :: rest =>
    let stays := mayStay && Framing.staysOpen request
    (request, stays) :: if stays then answered mayStay rest else []

/-- Whether a connection is closed behind these answers. -/
def closes (items : List (Request × Bool)) : Bool := items.any (!·.2)

/-- What is sent for requests that are answered. -/
def responses (respond : Request → Response) (items : List (Request × Bool)) : List SentResponse :=
  items.map fun item => .ofResponse (respond item.1) item.1 item.2

variable {mayStay : Bool} {request : Request} {respond : Request → Response}

theorem answered_of_stays (stays : (mayStay && Framing.staysOpen request) = true)
    (rest : List Request) :
    answered mayStay (request :: rest) = (request, true) :: answered mayStay rest := by
  simp only [answered, stays, if_true]

theorem answered_of_last (last : (mayStay && Framing.staysOpen request) = false)
    (rest : List Request) : answered mayStay (request :: rest) = [(request, false)] := by
  simp [answered, last]

/-- The bytes of plain requests, one behind the other. -/
def streamOf (plains : List PlainRequest) : Bytes := plains.flatMap (·.bytes)

theorem streamOf_cons (plain : PlainRequest) (others : List PlainRequest) (part : Bytes) :
    streamOf (plain :: others) ++ part = plain.bytes ++ (streamOf others ++ part) := by
  simp [streamOf]

theorem read_streamOf_cons (plain : PlainRequest) (others : List PlainRequest) (part : Bytes) :
    FramedRequest.read (streamOf (plain :: others) ++ part) =
      .complete ⟨plain.request, .bytes 0, Framing.staysOpen plain.request⟩
        (streamOf others ++ part) := by
  rw [streamOf_cons]
  exact plain.read_append _

theorem length_streamOf_lt (plain : PlainRequest) (others : List PlainRequest) (part : Bytes) :
    (streamOf others ++ part).length < (streamOf (plain :: others) ++ part).length := by
  have positive : 0 < plain.bytes.length := List.length_pos_iff.mpr plain.bytes_ne_nil
  rw [streamOf_cons]
  simp only [List.length_append]
  omega

/-- Bytes that begin a plain request and do not complete it. -/
def Begun (part : Bytes) : Prop :=
  part = [] ∨ ∃ (plain : PlainRequest) (missing : Bytes),
    missing ≠ [] ∧ part ++ missing = plain.bytes

theorem Begun.read {part : Bytes} (begun : Begun part) :
    FramedRequest.read part = .incomplete := by
  rcases begun with rfl | ⟨plain, missing, missing_ne_nil, isBegun⟩
  · rfl
  · exact plain.read_of_begun isBegun missing_ne_nil

namespace Connection

variable {service : Service} {connection : Connection}

theorem after_of_plain (plain : PlainRequest) (rest : Bytes) :
    connection.after ⟨plain.request, .bytes 0, Framing.staysOpen plain.request⟩ rest =
      if connection.mayStay && Framing.staysOpen plain.request then
        { connection with stage := .kept, received := rest }
      else connection.finish := by
  simp [after, behindBody?]

/-- Of the bytes that a live connection has received, all complete requests are answered, and the
beginning of the next is kept unless the connection ends. -/
theorem serve_plain (answers : ∀ request, service.Answers request (respond request))
    (live : connection.isLive = true) {plains : List PlainRequest} {part : Bytes}
    (begun : Begun part) (received : connection.received = streamOf plains ++ part)
    (timing : Timing) :
    let items := answered connection.mayStay (plains.map (·.request))
    (serve service timing connection).2.sent = responses respond items ∧
      (serve service timing connection).1.isLive = !closes items ∧
      (closes items = false →
        (serve service timing connection).1.mayStay = connection.mayStay ∧
          (serve service timing connection).1.received = part) := by
  induction plains generalizing connection with
  | nil =>
      have incomplete : FramedRequest.read connection.received = .incomplete := by
        rw [received]
        exact begun.read
      intro items
      rw [serve_of_incomplete incomplete]
      exact ⟨rfl, live, fun _ => ⟨rfl, received⟩⟩
  | cons plain others ih =>
      have complete : FramedRequest.read connection.received =
          .complete ⟨plain.request, .bytes 0, Framing.staysOpen plain.request⟩
            (streamOf others ++ part) := by
        rw [received]
        exact read_streamOf_cons plain others part
      have after := connection.after_of_plain plain (streamOf others ++ part)
      intro items
      cases stays : connection.mayStay && Framing.staysOpen plain.request with
      | false =>
          rw [stays] at after
          rcases serve_of_last live complete after (answers plain.request) timing with
            ⟨messages, served⟩
          have itemsAre : items = [(plain.request, false)] := answered_of_last stays _
          rw [served, itemsAre, stays]
          refine ⟨rfl, rfl, ?_⟩
          intro isOpen
          cases isOpen
      | true =>
          rw [stays, if_pos rfl] at after
          have shorter : (connection.after ⟨plain.request, .bytes 0,
                Framing.staysOpen plain.request⟩ (streamOf others ++ part)).received.length <
              connection.received.length := by
            rw [after, received]
            exact length_streamOf_lt plain others part
          rcases serve_of_complete live complete shorter (answers plain.request) timing with
            ⟨messages, served⟩
          have itemsAre : items = (plain.request, true) ::
              answered connection.mayStay (others.map (·.request)) := answered_of_stays stays _
          -- Behind the answer the connection holds the rest of the stream: the same once more.
          have nextLive : ({ connection with
              stage := .kept, received := streamOf others ++ part } : Connection).isLive = true :=
            rfl
          rcases ih nextLive rfl with ⟨sent, isLive, remains⟩
          rw [served, after, itemsAre, stays]
          refine ⟨?_, ?_, ?_⟩
          · simp only [ConnectionOutput.andThen, sent]
            rfl
          · rw [isLive]
            simp [closes]
          · intro isOpen
            exact remains (by simpa [closes] using isOpen)

end Connection

end RangeServer
