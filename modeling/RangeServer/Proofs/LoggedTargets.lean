import Mathlib
import RangeServer.Proofs.AccessRecords
import RangeServer.Proofs.TruthfulReplies

/-!
# The target in the log

A request is looked up by its target, and the access log writes its target down; the reader of the
log takes the one for the other. They are made in two ways: the lookup takes path and query as they
are written, and the log takes the path and the query apart and joins them again. The ways differ in
what they do about a path that is missing. The lookup puts the root in its place only if there is no
query either, while the path that the log shows is the root in any case.

`Service.logs_lookup_iff` says when the two are the same text: always, unless an absolute address
lacks its path and has a query. There the log shows a slash that was never looked up.
-/

namespace RangeServer

/-- Whether a target is an absolute address with a query straight behind the authority. -/
def RequestTarget.LacksPath (target : RequestTarget) : Prop :=
  ∃ scheme authority query, target = .absolute scheme authority ⟨"", some query⟩

theorem PathQuery.isEmpty_text {target : PathQuery} (written : target.path ≠ "") :
    target.text.isEmpty = false := by
  rw [String.isEmpty_eq_false_iff]
  intro empty
  apply written
  unfold PathQuery.text at empty
  split at empty
  · simp at empty
  · exact empty

namespace Service

variable {service : Service}

/-- A path and a query, taken apart and joined again, are the text that they were taken from. -/
theorem uri_entry_of_parts {delivery : Delivery} (reply : Reply) (parts : PathQuery)
    (path : delivery.request.target.path = parts.path)
    (query : delivery.request.target.query = parts.query) :
    (entry delivery reply).uri = parts.text := by
  simp only [AccessEntry.uri, entry, path, query]
  rfl

theorem uri_entry_of_not_lacksPath {delivery : Delivery} (reply : Reply)
    (hasPath : ¬delivery.request.target.LacksPath) :
    (entry delivery reply).uri = delivery.request.target.lookupText := by
  cases target : delivery.request.target with
  | origin parts =>
      rw [uri_entry_of_parts reply parts (by rw [target]; rfl) (by rw [target]; rfl)]
      rfl
  | absolute scheme authority parts =>
      by_cases written : parts.path = ""
      · have noQuery : parts.query = none := by
          cases query : parts.query with
          | none => rfl
          | some text =>
              refine absurd ⟨scheme, authority, text, ?_⟩ hasPath
              rw [target, ← written, ← query]
        have root : (entry delivery reply).uri = "/" := by
          simp [AccessEntry.uri, entry, target, RequestTarget.path, RequestTarget.query, written,
            noQuery]
        simp [root, RequestTarget.lookupText, PathQuery.text, written, noQuery]
      · have path : delivery.request.target.path = parts.path := by
          simp [target, RequestTarget.path, String.isEmpty_iff, written]
        rw [uri_entry_of_parts reply parts path (by rw [target]; rfl)]
        simp [RequestTarget.lookupText, PathQuery.isEmpty_text written]
  | authority text =>
      rw [uri_entry_of_parts reply ⟨"", none⟩ (by rw [target]; rfl) (by rw [target]; rfl)]
      rfl

/-- Of an address without a path, the log shows the query behind a slash that is not written. -/
theorem uri_entry_of_lacksPath {delivery : Delivery} (reply : Reply)
    (lacksPath : delivery.request.target.LacksPath) :
    (entry delivery reply).uri = "/" ++ delivery.request.target.lookupText := by
  rcases lacksPath with ⟨scheme, authority, query, target⟩
  simp [AccessEntry.uri, entry, target, RequestTarget.path, RequestTarget.query,
    RequestTarget.lookupText, PathQuery.text, ← String.append_assoc]

theorem uri_entry_eq_iff (delivery : Delivery) (reply : Reply) :
    (entry delivery reply).uri = delivery.request.target.lookupText ↔
      ¬delivery.request.target.LacksPath := by
  refine ⟨?_, uri_entry_of_not_lacksPath reply⟩
  intro same lacksPath
  rw [uri_entry_of_lacksPath reply lacksPath] at same
  have lengths := congrArg String.length same
  simp at lengths

/-- A request by one of the methods that are served is answered with what its target names in the
catalogue, and its access line is about an entry whose URI is that target unless it lacks its
path. -/
theorem logs_lookup_iff (inMemory : service.catalogue.InMemory) (logs : service.logsAccess = true)
    {delivery : Delivery} (served : delivery.request.method.isServed = true) :
    ∃ reply answer,
      service.catalogue.reply delivery.request.target.lookupText
        (delivery.request.headerText? "Range") service.policy = .ok reply ∧
      reply.Truthful service.catalogue delivery.request.target.lookupText ∧
      service.handle delivery = .ok answer ∧
      answer.response = (reply.toResponse delivery.request.method.isHead).1 ∧
      Message.accessLines answer.messages =
        [.access ((entry delivery reply).line service.format)] ∧
      ((entry delivery reply).uri = delivery.request.target.lookupText ↔
        ¬delivery.request.target.LacksPath) := by
  rcases Catalogue.reply_truthful inMemory delivery.request.target.lookupText
    (delivery.request.headerText? "Range") service.policy with ⟨reply, looked, -, -, truthful⟩
  have answered := handle_of_reply (reply_of_isServed served looked)
  exact ⟨reply, _, looked, truthful, answered, rfl, accessLines_answer logs rfl,
    uri_entry_eq_iff delivery reply⟩

/-- An address without path and query: both texts are the root. -/
theorem logs_lookup_iff_authority :
    let service : Service :=
      { settings :=
          { server := ⟨"127.0.0.1", 80, none⟩
            logging := ⟨"info", true, "$request_uri", none, none⟩
            performance := ⟨75, 30, 30, none⟩
            http := ⟨.collapse⟩ }
        catalogue := ⟨[("/", ⟨[104, 105], "text/plain"⟩)]⟩ }
    let request : Request := ⟨⟨"HEAD", by decide⟩, .absolute "http" "h" ⟨"", none⟩, .v11, .empty⟩
    let delivery : Delivery := ⟨request, ⟨.v4 ⟨127, 0, 0, 1⟩, 40000⟩, ⟨0, 0, 0⟩, 0⟩
    Request.make "HEAD" (Utf8.encode "http://h") .v11 [] = .ok request ∧
      service.catalogue.InMemory ∧ service.logsAccess = true ∧
      request.method.isServed = true ∧ ¬request.target.LacksPath ∧
      ∃ reply answer, service.catalogue.reply "/" none .collapse = .ok reply ∧
        service.handle delivery = .ok answer ∧
        Message.accessLines answer.messages =
          [.access ((entry delivery reply).line service.format)] ∧
        (entry delivery reply).uri = "/" := by
  intro service request delivery
  have made : Request.make "HEAD" (Utf8.encode "http://h") .v11 [] = .ok request := by cbv
  have inMemory : service.catalogue.InMemory := by decide
  have hasPath : ¬request.target.LacksPath := by rintro ⟨_, _, _, ⟨⟩⟩
  have served : delivery.request.method.isServed = true := rfl
  rcases logs_lookup_iff inMemory rfl served with ⟨reply, answer, looked, -, handled, -, line,
    same⟩
  exact ⟨made, inMemory, rfl, served, hasPath, reply, answer, looked, handled, line,
    same.mpr hasPath⟩

/-- An address whose query stands straight behind the authority: the query with its question mark
is looked up and echoed, and the log shows it behind a slash. -/
theorem logs_other_than_lookup :
    let service : Service :=
      .standard
        { server := ⟨"127.0.0.1", 0, none⟩
          logging := ⟨"info", true, "$request_uri", none, none⟩
          performance := ⟨75, 30, 0, none⟩
          http := ⟨.unsatisfiable⟩ }
    let request : Request :=
      ⟨⟨"GET", by decide⟩, .absolute "http" "h" ⟨"", some "q"⟩, .v11, .empty⟩
    let delivery : Delivery := ⟨request, ⟨.v4 ⟨127, 0, 0, 1⟩, 40000⟩, ⟨0, 0, 0⟩, 0⟩
    let echo : Reply := .notFound "?q"
    Request.make "GET" (Utf8.encode "http://h?q") .v11 [] = .ok request ∧
      request.method.isServed = true ∧ service.logsAccess = true ∧
      service.catalogue.reply request.target.lookupText none .unsatisfiable = .ok echo ∧
      (∃ headers, service.handle delivery =
        .ok ⟨⟨.notFound, headers, Utf8.encode "Not found: ?q"⟩, [.access "/?q"]⟩) ∧
      (entry delivery echo).uri = "/?q" ∧ request.target.lookupText = "?q" ∧
      (entry delivery echo).uri ≠ request.target.lookupText := by
  intro service request delivery echo
  have made : Request.make "GET" (Utf8.encode "http://h?q") .v11 [] = .ok request := by cbv
  have looked : service.catalogue.reply request.target.lookupText none .unsatisfiable =
      .ok echo := by
    cbv
  have lacksPath : request.target.LacksPath := ⟨"http", "h", "q", rfl⟩
  have different : (entry delivery echo).uri ≠ request.target.lookupText := by
    intro same
    exact (uri_entry_eq_iff delivery echo).mp same lacksPath
  have served : delivery.request.method.isServed = true := rfl
  have logs : service.logsAccess = true := rfl
  have line : (entry delivery echo).line service.format = "/?q" := by cbv
  rcases Reply.toResponse_of_sendable (Reply.sendable_notFound "?q") false with ⟨headers, response⟩
  have answered : service.handle delivery =
      .ok ⟨⟨.notFound, headers, Utf8.encode "Not found: ?q"⟩, [.access "/?q"]⟩ := by
    rw [handle_of_reply (reply_of_isServed served looked), accessMessages, if_pos logs, line]
    exact congrArg (fun made => Except.ok (Answer.mk made.1 ([.access "/?q"] ++ made.2))) response
  exact ⟨made, served, logs, looked, ⟨headers, answered⟩, by cbv, by cbv, different⟩

end Service

end RangeServer
