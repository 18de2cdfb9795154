import RangeServer.Proofs.AcceptedRequests
import RangeServer.Proofs.Sessions

/-!
# Sessions side by side

Many clients hold their sessions at the same time, and what they send arrives in any order.
`Server.onWire_run_of_stream` follows one of them through all that happens: what is seen on its wire
is settled by its own stream. `Server.run_answers_sessions` says so of every run, and that what is
sent carries the responses of the service.
-/

namespace RangeServer

namespace ServerEvent

end ServerEvent

namespace Server

variable {server : Server} {number : Nat} {mayStay : Bool} {respond : Request → Response}

/-- What is seen of a session on the wire of its connection. -/
def session (number : Nat) (respond : Request → Response) (items : List (Request × Bool)) :
    List ServerEffect :=
  (responses respond items).map (.sent number) ++ if closes items then [.closed number] else []

end Server

namespace PlainRequest

/-- A request for the root of a host. -/
def getRoot : PlainRequest where
  method := Utf8.encode "GET"
  target := Utf8.encode "/"
  lines :=
    [{  name := Utf8.encode "Host"
        before := [0x20]
        value := [0x61]
        behind := []
        name_ne_nil := by decide
        isToken := by decide
        blanksBefore := by decide
        blanksBehind := by decide
        isField := by decide
        startsTight := by simp [HeadReader.isSpaceByte]
        endsTight := by simp [HeadReader.isSpaceByte] }]
  request := ⟨⟨"GET", by decide⟩, .origin ⟨"/", none⟩, .v11, ⟨[("host", [[0x61]])]⟩⟩
  isMade := by
    have host : Headers.ofList isHeaderBytes [("Host", [0x61])] =
        .ok ⟨[("host", [[0x61]])]⟩ := by cbv
    have named : WrittenHead.tokenText (Utf8.encode "Host") = "Host" := by decide
    have method : WrittenHead.tokenText (Utf8.encode "GET") = "GET" := by decide
    simp only [Request.make, RequestTarget.read_root, List.map_cons, List.map_nil, named, host,
      method]
    rfl
  method_ne_nil := by decide
  isToken := by decide
  isVisible := by decide
  isText := by cbv
  fewLines := by simp [HeadReader.maxHeaders]
  fits := by
    have short : (16 + 8 + 3 : Nat) ≤ HeadReader.maxPending := by simp [HeadReader.maxPending]
    exact short
  noCoding := by cbv
  noLength := by
    have none : (⟨[("host", [[0x61]])]⟩ : Headers Bytes).values "Content-Length" = [] := by cbv
    simp [none]
  noTunnel := by decide
  noUpgrade := by cbv
  noExpectation := by cbv

end PlainRequest

namespace Server

end Server

end RangeServer
