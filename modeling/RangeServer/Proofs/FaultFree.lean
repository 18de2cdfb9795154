import RangeServer.Proofs.Replies
import RangeServer.Service

/-!
# Requests are answered without a fault

A fault on the way to an answer would end the connection before it gives its place back. No request
causes one: whatever its method, target and headers are, the service answers it. What could fault is
the arithmetic on the window of a range and the slice that follows it, and the windows that reading
a header gives are all servable.
-/

namespace RangeServer

namespace RangeOutcome

/-- Reading a header for a resource gives an outcome whose window, if any, is servable. -/
theorem ofHeader_servable {resource : Resource} (fits : resource.size ≤ maxWord)
    (header : Option String) (policy : PastEndPolicy) :
    ∃ outcome, ofHeader header resource.size policy = .ok outcome ∧
      ∀ window, outcome = .part window → window.Servable resource.content := by
  rcases ofHeader_within header resource.size policy with ⟨outcome, isRead, within⟩
  refine ⟨outcome, isRead, ?_⟩
  intro window isPart
  subst isPart
  exact ByteWindow.servable_of_within within fits

end RangeOutcome

theorem Catalogue.reply_ok {catalogue : Catalogue} (inMemory : catalogue.InMemory) (path : String)
    (range : Option String) (policy : PastEndPolicy) :
    ∃ reply, catalogue.reply path range policy = .ok reply := by
  rcases catalogue.unregistered_or_firstUnder path with unregistered | ⟨resource, first⟩
  · exact ⟨_, reply_of_unregistered unregistered range policy⟩
  · rcases RangeOutcome.ofHeader_within range resource.size policy with ⟨outcome, isRead, -⟩
    exact ⟨_, reply_of_firstUnder inMemory first isRead⟩

namespace Service

variable {service : Service}

theorem reply_ok (inMemory : service.catalogue.InMemory) (request : Request) :
    ∃ replied, service.reply request = .ok replied := by
  unfold reply
  split
  · rcases Catalogue.reply_ok inMemory request.target.lookupText
      (request.headerText? "Range") service.policy with ⟨reply, isReply⟩
    refine ⟨(reply, []), ?_⟩
    simp only [isReply, bind, Except.bind, pure, Except.pure]
  · exact ⟨_, rfl⟩

/-- The answer to a delivery, given the reply to its request. -/
theorem handle_of_reply {delivery : Delivery} {reply : Reply} {warnings : List Message}
    (replied : service.reply delivery.request = .ok (reply, warnings)) :
    service.handle delivery =
      .ok ⟨(reply.toResponse delivery.request.method.isHead).1,
        warnings ++ service.accessMessages delivery reply ++
          (reply.toResponse delivery.request.method.isHead).2⟩ := by
  simp only [handle, replied, bind, Except.bind, pure, Except.pure]

/-- Whether a request has a response, whoever sends it, whenever it comes and however long its reply
takes. -/
def Answers (service : Service) (request : Request) (response : Response) : Prop :=
  ∀ delivery : Delivery, delivery.request = request →
    ∃ messages, service.handle delivery = .ok ⟨response, messages⟩

/-- The response to a request hangs on nothing but the request. -/
theorem exists_answers (inMemory : service.catalogue.InMemory) (request : Request) :
    ∃ response, service.Answers request response := by
  rcases reply_ok inMemory request with ⟨⟨reply, warnings⟩, replied⟩
  refine ⟨(reply.toResponse request.method.isHead).1, ?_⟩
  rintro delivery rfl
  exact ⟨_, handle_of_reply replied⟩

/-- A service answers every delivery, and each step from the range header of a request to the bytes
that it is due has a value, for each content that memory holds. -/
theorem handle_never_faults (inMemory : service.catalogue.InMemory) :
    (∀ delivery, ∃ answer, service.handle delivery = .ok answer) ∧
      ∀ resource : Resource, resource.size ≤ maxWord → ∀ header policy, ∃ outcome,
        RangeOutcome.ofHeader header resource.size policy = .ok outcome ∧
          ∀ window, outcome = .part window → window.Servable resource.content := by
  constructor
  · intro delivery
    rcases reply_ok inMemory delivery.request with ⟨⟨reply, warnings⟩, replied⟩
    exact ⟨_, handle_of_reply replied⟩
  · intro resource fits header policy
    exact RangeOutcome.ofHeader_servable fits header policy

/-- A service that collapses ranges and has a resource of two bytes and an empty one. A range to an
offset past all words is cut to the last byte of the first, and one from there finds nothing in the
second. -/
theorem handle_never_faults_last_byte :
    let service : Service :=
      { settings :=
          { server := ⟨"127.0.0.1", 80, none⟩
            logging := ⟨"info", true, "combined", none, none⟩
            performance := ⟨75, 30, 30, none⟩
            http := ⟨.collapse⟩ }
        catalogue := ⟨[("/", ⟨[104, 105], "text/plain"⟩), ("/none", ⟨[], "text/plain"⟩)]⟩ }
    service.catalogue.InMemory ∧ (∀ delivery, ∃ answer, service.handle delivery = .ok answer) ∧
      RangeOutcome.ofHeader (some "bytes=1-18446744073709551616") 2 .collapse =
        .ok (.part ⟨1, 1⟩) ∧
      ByteWindow.Servable ⟨1, 1⟩ [104, 105] ∧
      ∃ outcome, RangeOutcome.ofHeader (some "bytes=18446744073709551616-") 0 .collapse =
          .ok outcome ∧
        ∀ window, outcome = .part window → window.Servable [] := by
  intro service
  have inMemory : service.catalogue.InMemory := by decide
  have cut : RangeOutcome.ofHeader (some "bytes=1-18446744073709551616") 2 .collapse =
      .ok (.part ⟨1, 1⟩) := by
    cbv
  rcases handle_never_faults inMemory with ⟨answers, serves⟩
  rcases serves ⟨[104, 105], "text/plain"⟩ (by decide) (some "bytes=1-18446744073709551616")
    .collapse with ⟨outcome, isOutcome, servable⟩
  have isCut : outcome = .part ⟨1, 1⟩ := Except.ok.inj (isOutcome.symm.trans cut)
  exact ⟨inMemory, answers, cut, servable ⟨1, 1⟩ isCut,
    serves ⟨[], "text/plain"⟩ (by decide) _ .collapse⟩

end Service

end RangeServer
