import Mathlib
import RangeServer.Proofs.FaultFree
import RangeServer.Proofs.HeaderGroups

/-!
# What the access log says about responses

With the access log on, each request leaves one line, and the line gives the status and the size of
a body. Both are taken from the reply, before the reply is made ready to send. Making it ready can
fail: a header that cannot be sent turns the reply into an empty internal error, while the line
keeps what the reply was meant to be.

The only header whose text is free is the media type of a resource. `Service.access_truthful_iff`
therefore says exactly when a line is true: unless the reply carries a media type that no header may
hold. A reply is called sendable if none of its headers is refused; the replies are few, and each is
judged once.
-/

namespace RangeServer

/-! ## Headers that can be sent -/

namespace Headers

variable {Value : Type} {isValue : Value → Bool}

theorem fault?_eq_none_iff (header : String × Value) :
    fault? isValue header = none ↔ Ascii.isToken header.1 = true ∧ isValue header.2 = true := by
  unfold fault?
  split
  · rename_i noToken
    simp_all
  · split <;> simp_all

end Headers

theorem isHeaderText_append (left right : String) :
    isHeaderText (left ++ right) = (isHeaderText left && isHeaderText right) := by
  simp [isHeaderText, String.toList_append]

theorem isForbiddenControl_of_isDigit {digit : Char} (isDigit : digit.isDigit = true) :
    Ascii.isForbiddenControl digit = false := by
  have code := Decimal.code_of_isDigit isDigit
  have notLow : ¬digit.toNat < 0x20 := by omega
  have notDelete : ¬digit.toNat = 0x7F := by omega
  simp [Ascii.isForbiddenControl, notLow, notDelete]

theorem isHeaderText_decimal (number : Nat) : isHeaderText (Decimal.text number) = true := by
  have numeral := Decimal.isNumeral_digits number
  simp only [isHeaderText, Decimal.toList_text, List.all_eq_true]
  intro digit mem
  simp [isForbiddenControl_of_isDigit (Decimal.isDigit_of_mem numeral mem)]

theorem isHeaderText_contentRange (window : ByteWindow) (length : Nat) :
    isHeaderText (Reply.contentRange window length) = true := by
  have unit : isHeaderText "bytes " = true := by decide
  have dash : isHeaderText "-" = true := by decide
  have slash : isHeaderText "/" = true := by decide
  simp [Reply.contentRange, isHeaderText_append, isHeaderText_decimal, unit, dash, slash]

namespace Reply

/-- Whether all headers of a reply can be sent. -/
def Sendable (reply : Reply) : Prop :=
  ∀ header ∈ reply.headers, Ascii.isToken header.1 = true ∧ isHeaderText header.2 = true

theorem findSome?_fault?_eq_none_iff (reply : Reply) :
    reply.headers.findSome? (Headers.fault? isHeaderText) = none ↔ reply.Sendable := by
  simp only [List.findSome?_eq_none_iff, Headers.fault?_eq_none_iff, Sendable]

/-- A sendable reply goes out as it is, its body left out or not. -/
theorem toResponse_of_sendable {reply : Reply} (sendable : reply.Sendable) (omitBody : Bool) :
    ∃ headers, reply.toResponse omitBody =
      (⟨reply.status, headers, if omitBody then [] else reply.body⟩, []) := by
  have unrefused := reply.findSome?_fault?_eq_none_iff.mpr sendable
  refine ⟨.collect reply.headers, ?_⟩
  rw [toResponse, Headers.ofList_eq, unrefused]

/-- A reply that is not sendable goes out as an empty internal error. -/
theorem toResponse_of_not_sendable {reply : Reply} (notSendable : ¬reply.Sendable)
    (omitBody : Bool) :
    ∃ text, reply.toResponse omitBody =
      (⟨.internalServerError, .empty, []⟩, [.error text]) := by
  rw [← findSome?_fault?_eq_none_iff] at notSendable
  rcases Option.ne_none_iff_exists'.mp notSendable with ⟨fault, first⟩
  refine ⟨"Failed to build " ++ reply.status.describe ++ " response: " ++ fault.message, ?_⟩
  rw [toResponse, Headers.ofList_eq, first]

theorem sendable_whole_iff (resource : Resource) :
    (whole resource).Sendable ↔ isHeaderText resource.mediaType = true := by
  have typeName : Ascii.isToken "Content-Type" = true := by decide
  have rangesName : Ascii.isToken "Accept-Ranges" = true := by decide
  have ranges : isHeaderText "bytes" = true := by decide
  have lengthName : Ascii.isToken "Content-Length" = true := by decide
  simp [Sendable, whole, typeName, rangesName, ranges, lengthName, isHeaderText_decimal]

theorem sendable_cut_iff (resource : Resource) (window : ByteWindow) :
    (cut resource window).Sendable ↔ isHeaderText resource.mediaType = true := by
  have typeName : Ascii.isToken "Content-Type" = true := by decide
  have rangesName : Ascii.isToken "Accept-Ranges" = true := by decide
  have ranges : isHeaderText "bytes" = true := by decide
  have windowName : Ascii.isToken "Content-Range" = true := by decide
  have lengthName : Ascii.isToken "Content-Length" = true := by decide
  simp [Sendable, cut, typeName, rangesName, ranges, windowName, lengthName, isHeaderText_decimal,
    isHeaderText_contentRange]

theorem sendable_unsatisfiable (length : Nat) : (unsatisfiable length).Sendable := by
  have windowName : Ascii.isToken "Content-Range" = true := by decide
  have unit : isHeaderText "bytes */" = true := by decide
  simp [Sendable, unsatisfiable, windowName, isHeaderText_append, unit, isHeaderText_decimal]

theorem sendable_exact_iff (resource : Resource) (outcome : RangeOutcome) :
    (exact resource outcome).Sendable ↔
      (outcome ≠ .unsatisfiable → isHeaderText resource.mediaType = true) := by
  cases outcome with
  | whole => simp [exact, sendable_whole_iff]
  | part window => simp [exact, sendable_cut_iff]
  | unsatisfiable => simp [exact, sendable_unsatisfiable]

theorem sendable_plain {status : Status} {more : List (String × String)}
    (moreSendable : ∀ header ∈ more,
      Ascii.isToken header.1 = true ∧ isHeaderText header.2 = true) (message : String) :
    (plain status more message).Sendable := by
  have typeName : Ascii.isToken "Content-Type" = true := by decide
  have plainText : isHeaderText "text/plain" = true := by decide
  have lengthName : Ascii.isToken "Content-Length" = true := by decide
  intro header mem
  simp only [plain, List.mem_append, List.mem_singleton] at mem
  rcases mem with (rfl | inMore) | rfl
  · exact ⟨typeName, plainText⟩
  · exact moreSendable header inMore
  · exact ⟨lengthName, isHeaderText_decimal _⟩

theorem sendable_notFound (path : String) : (notFound path).Sendable :=
  sendable_plain (by simp) _

theorem sendable_methodNotAllowed : methodNotAllowed.Sendable := by
  refine sendable_plain ?_ _
  intro header mem
  rw [List.mem_singleton.mp mem]
  decide

theorem status_exact_ne_internalServerError (resource : Resource) (outcome : RangeOutcome) :
    (exact resource outcome).status ≠ .internalServerError := by
  cases outcome with
  | whole => exact (by decide : Status.ok ≠ .internalServerError)
  | part window => exact (by decide : Status.partialContent ≠ .internalServerError)
  | unsatisfiable => exact (by decide : Status.rangeNotSatisfiable ≠ .internalServerError)

end Reply

/-! ## Lines and responses -/

/-- The access lines among messages. -/
def Message.accessLines (messages : List Message) : List Message :=
  messages.filter (·.kind == .access)

/-- Whether an entry gives the status of a response and the size of its body. -/
def AccessEntry.Describes (entry : AccessEntry) (response : Response) : Prop :=
  entry.status = response.status.code ∧ entry.bodySize = response.body.length

namespace Service

variable {service : Service}

theorem describes_of_sendable (delivery : Delivery) {reply : Reply} (sendable : reply.Sendable) :
    (entry delivery reply).Describes (reply.toResponse delivery.request.method.isHead).1 ∧
      (reply.toResponse delivery.request.method.isHead).2 = [] := by
  rcases Reply.toResponse_of_sendable sendable delivery.request.method.isHead with
    ⟨headers, response⟩
  rw [response]
  refine ⟨⟨rfl, ?_⟩, rfl⟩
  simp only [entry]
  split <;> rfl

theorem not_describes_of_not_sendable (delivery : Delivery) {reply : Reply}
    (notSendable : ¬reply.Sendable) (status : reply.status ≠ .internalServerError) :
    ¬(entry delivery reply).Describes (reply.toResponse delivery.request.method.isHead).1 := by
  rcases Reply.toResponse_of_not_sendable notSendable delivery.request.method.isHead with
    ⟨text, response⟩
  rw [response]
  rintro ⟨sameCode, -⟩
  apply status
  have codes : reply.status.code = Status.internalServerError.code := sameCode
  cases given : reply.status
  simp_all [Status.internalServerError]

/-- Whether a request is answered with the media type of a resource, and no header may hold it. -/
def Spoiled (service : Service) (request : Request) : Prop :=
  request.method.isServed = true ∧
    ∃ resource, service.catalogue.FirstUnder request.target.lookupText resource ∧
      RangeOutcome.ofHeader (request.headerText? "Range") resource.size service.policy ≠
        .ok .unsatisfiable ∧
      isHeaderText resource.mediaType = false

theorem spoiled_iff_of_firstUnder {request : Request} (served : request.method.isServed = true)
    {resource : Resource}
    (first : service.catalogue.FirstUnder request.target.lookupText resource)
    {outcome : RangeOutcome}
    (isRead : RangeOutcome.ofHeader (request.headerText? "Range") resource.size service.policy =
      .ok outcome) :
    service.Spoiled request ↔ ¬(Reply.exact resource outcome).Sendable := by
  rw [Reply.sendable_exact_iff]
  constructor
  · rintro ⟨-, other, otherFirst, carries, notText⟩ sendable
    rw [← Catalogue.lookup_eq_some_iff] at first otherFirst
    rcases Option.some.inj (first.symm.trans otherFirst) with rfl
    rw [isRead] at carries
    simp [sendable (by simpa using carries)] at notText
  · intro notSendable
    rw [Classical.not_imp] at notSendable
    refine ⟨served, resource, first, ?_, by simpa using notSendable.2⟩
    rw [isRead]
    simpa using notSendable.1

theorem reply_of_isServed {request : Request} (served : request.method.isServed = true)
    {reply : Reply}
    (replied : service.catalogue.reply request.target.lookupText (request.headerText? "Range")
      service.policy = .ok reply) :
    service.reply request = .ok (reply, []) := by
  simp only [Service.reply, if_pos served, replied, bind, Except.bind, pure, Except.pure]

/-- Each request has a reply that is no internal error. It is sendable unless the request is
spoiled, and the messages in front of the access line are none themselves. -/
theorem exists_reply_sendable_iff (inMemory : service.catalogue.InMemory) (request : Request) :
    ∃ reply warnings, service.reply request = .ok (reply, warnings) ∧
      Message.accessLines warnings = [] ∧ reply.status ≠ .internalServerError ∧
      (reply.Sendable ↔ ¬service.Spoiled request) := by
  by_cases served : request.method.isServed = true
  · rcases service.catalogue.unregistered_or_firstUnder request.target.lookupText with
      unregistered | ⟨resource, first⟩
    · have replied := reply_of_isServed served (Catalogue.reply_of_unregistered unregistered ..)
      refine ⟨_, _, replied, rfl, (by decide : Status.notFound ≠ _), ?_⟩
      refine iff_of_true (Reply.sendable_notFound _) ?_
      rintro ⟨-, resource, first, -⟩
      exact unregistered first.mem_paths
    · rcases RangeOutcome.ofHeader_within (request.headerText? "Range") resource.size
        service.policy with ⟨outcome, isRead, -⟩
      have replied := reply_of_isServed served (Catalogue.reply_of_firstUnder inMemory first isRead)
      refine ⟨_, _, replied, rfl, Reply.status_exact_ne_internalServerError resource outcome, ?_⟩
      rw [spoiled_iff_of_firstUnder served first isRead, not_not]
  · refine ⟨_, _, if_neg served, by simp [Message.accessLines, Message.warning],
      (by decide : Status.methodNotAllowed ≠ _), ?_⟩
    refine iff_of_true Reply.sendable_methodNotAllowed ?_
    rintro ⟨isServed, -⟩
    exact served isServed

/-- The answer to a delivery has exactly one access line, the one about the reply. -/
theorem accessLines_answer {delivery : Delivery} {reply : Reply} {warnings : List Message}
    (logs : service.logsAccess = true) (noLines : Message.accessLines warnings = []) :
    Message.accessLines (warnings ++ service.accessMessages delivery reply ++
        (reply.toResponse delivery.request.method.isHead).2) =
      [.access ((entry delivery reply).line service.format)] := by
  have noErrorLines :
      Message.accessLines (reply.toResponse delivery.request.method.isHead).2 = [] := by
    by_cases sendable : reply.Sendable
    · rw [(describes_of_sendable delivery sendable).2]
      rfl
    · rcases Reply.toResponse_of_not_sendable sendable delivery.request.method.isHead with
        ⟨text, response⟩
      rw [response]
      rfl
  simp only [Message.accessLines, List.filter_append] at noLines noErrorLines ⊢
  rw [noLines, noErrorLines, accessMessages, if_pos logs]
  rfl

/-- With the access log on, each delivery leaves exactly one access line, and the entry in it gives
the status and the size of the response that goes out unless the request is spoiled. -/
theorem access_truthful_iff (inMemory : service.catalogue.InMemory)
    (logs : service.logsAccess = true) (delivery : Delivery) :
    ∃ reply warnings answer, service.reply delivery.request = .ok (reply, warnings) ∧
      service.handle delivery = .ok answer ∧
      Message.accessLines answer.messages =
        [.access ((entry delivery reply).line service.format)] ∧
      ((entry delivery reply).Describes answer.response ↔ ¬service.Spoiled delivery.request) := by
  rcases exists_reply_sendable_iff inMemory delivery.request with
    ⟨reply, warnings, replied, noLines, status, sendableIff⟩
  refine ⟨reply, warnings, _, replied, handle_of_reply replied, ?_, ?_⟩
  · exact accessLines_answer logs noLines
  · rw [← sendableIff]
    by_cases sendable : reply.Sendable
    · exact iff_of_true (describes_of_sendable delivery sendable).1 sendable
    · exact iff_of_false (not_describes_of_not_sendable delivery sendable status) sendable

/-- A request for the headers of content with two bytes. -/
theorem access_truthful_head :
    let service : Service :=
      { settings :=
          { server := ⟨"127.0.0.1", 80, none⟩
            logging := ⟨"error", true, "json", none, none⟩
            performance := ⟨75, 30, 30, none⟩
            http := ⟨.collapse⟩ }
        catalogue := ⟨[("/", ⟨[104, 105], "text/plain"⟩)]⟩ }
    let delivery : Delivery :=
      { request := ⟨⟨"HEAD", by decide⟩, .origin ⟨"/", none⟩, .v11, .empty⟩
        peer := ⟨.v4 ⟨127, 0, 0, 1⟩, 40000⟩
        received := ⟨0, 0, 0⟩
        microseconds := 0 }
    service.catalogue.InMemory ∧ service.logsAccess = true ∧
      ∃ reply warnings answer, service.reply delivery.request = .ok (reply, warnings) ∧
        service.handle delivery = .ok answer ∧
        Message.accessLines answer.messages =
          [.access ((entry delivery reply).line service.format)] ∧
        ((entry delivery reply).Describes answer.response ↔
          ¬service.Spoiled delivery.request) := by
  intro service delivery
  have inMemory : service.catalogue.InMemory := by decide
  exact ⟨inMemory, rfl, access_truthful_iff inMemory rfl delivery⟩

/-- Behind a media type with a line break, two bytes are recorded as sent with status 200, and an
empty internal error goes out. -/
theorem access_untruthful_line_break :
    let service : Service :=
      { settings :=
          { server := ⟨"127.0.0.1", 0, none⟩
            logging := ⟨"info", true, "$status $body_bytes_sent", none, none⟩
            performance := ⟨75, 30, 0, none⟩
            http := ⟨.unsatisfiable⟩ }
        catalogue := ⟨[("/", ⟨[104, 105], "text/plain\n"⟩)]⟩ }
    let delivery : Delivery :=
      { request := ⟨⟨"GET", by decide⟩, .origin ⟨"/", none⟩, .v11, .empty⟩
        peer := ⟨.v4 ⟨127, 0, 0, 1⟩, 40000⟩
        received := ⟨0, 0, 0⟩
        microseconds := 0 }
    service.catalogue.InMemory ∧ service.logsAccess = true ∧
      ∃ reply warnings answer, service.reply delivery.request = .ok (reply, warnings) ∧
        service.handle delivery = .ok answer ∧
        Message.accessLines answer.messages =
          [.access ((entry delivery reply).line service.format)] ∧
        (entry delivery reply).status = 200 ∧ (entry delivery reply).bodySize = 2 ∧
        answer.response = ⟨.internalServerError, .empty, []⟩ ∧
        ¬(entry delivery reply).Describes answer.response := by
  intro service delivery
  have inMemory : service.catalogue.InMemory := by decide
  have replied : service.reply delivery.request =
      .ok (.whole ⟨[104, 105], "text/plain\n"⟩, []) := by rfl
  have notSendable : ¬(Reply.whole ⟨[104, 105], "text/plain\n"⟩).Sendable := by
    rw [Reply.sendable_whole_iff]
    decide
  rcases Reply.toResponse_of_not_sendable notSendable false with ⟨text, response⟩
  refine ⟨inMemory, rfl, _, _, _, replied, handle_of_reply replied, accessLines_answer rfl rfl,
    rfl, rfl, congrArg Prod.fst response, ?_⟩
  exact not_describes_of_not_sendable delivery notSendable (by decide)

end Service

end RangeServer
