import Mathlib
import RangeServer.Proofs.AcceptedRequests
import RangeServer.Proofs.AccessRecords
import RangeServer.Proofs.LineEnds
import RangeServer.Proofs.LogKeeping

/-!
# One line per request

What a client sends cannot break the lines of the log. `Service.handle_writes_one_line` follows the
texts of a request through the entry, the form of the lines and the bytes of the log: where access
lines have a target of their own, a request adds one line to it, which ends in the only line end
that it has, or nothing if requests are not logged. The warnings and errors of an answer are lines
just as well.

Two things are needed about bytes and targets. A line end in the bytes of a text is one in the text,
since UTF-8 has the bytes of ASCII for nothing else. And the targets of a log are there to be
written to after whatever calls of the log.
-/

namespace RangeServer

/-! ## Lines of bytes -/

namespace Utf8

theorem toNat_eq_of_mem_encodeChar {c : Char} {byte : UInt8} (mem : byte ∈ String.utf8EncodeChar c)
    (ascii : byte.toNat < 0x80) : c.toNat = byte.toNat := by
  change c.val.toNat = byte.toNat
  unfold String.utf8EncodeChar at mem
  dsimp only at mem
  split_ifs at mem
  all_goals
    simp only [List.mem_cons, List.not_mem_nil, or_false] at mem
  · rw [mem, UInt8.toNat_ofNat']
    omega
  · rcases mem with rfl | rfl <;> simp only [UInt8.toNat_ofNat'] at ascii <;> omega
  · rcases mem with rfl | rfl | rfl <;> simp only [UInt8.toNat_ofNat'] at ascii <;> omega
  · rcases mem with rfl | rfl | rfl | rfl <;> simp only [UInt8.toNat_ofNat'] at ascii <;> omega

/-- An ASCII byte among the bytes of a text is a character of the text. -/
theorem mem_of_mem_encode {text : String} {byte : UInt8} (mem : byte ∈ encode text)
    (ascii : byte.toNat < 0x80) : Char.ofNat byte.toNat ∈ text.toList := by
  rcases List.mem_flatMap.mp mem with ⟨c, isChar, encoded⟩
  rwa [← toNat_eq_of_mem_encodeChar encoded ascii, Char.ofNat_toNat]

end Utf8

/-- Whether bytes are one line: they end in a line end and have no other. -/
def IsLine (bytes : Bytes) : Prop := ∃ front, bytes = front ++ [0x0A] ∧ 0x0A ∉ front

theorem Journal.isLine_line {message : Message} (oneLine : '\n' ∉ message.text.toList) :
    IsLine (line message) := by
  refine ⟨Utf8.encode message.text, by rw [line]; congr 1, ?_⟩
  intro mem
  apply oneLine
  exact Utf8.mem_of_mem_encode mem (by decide)

/-! ## Logs after calls -/

namespace Journal

theorem Ready.call {journal : Journal} (ready : journal.Ready) (call : LogCall) :
    (journal.call call).Ready := by
  cases call with
  | setUp settings =>
      cases outcome : (journal.setUp settings).2 with
      | ok done => exact ready_setUp outcome
      | error fault =>
          apply ready.of_keeps (writer_setUp_of_error outcome)
          exact (journal.grows_setUp settings).keeps
  | write message =>
      exact ready.of_keeps (writer_write journal message) (keeps_write ready message)

theorem Ready.run {journal : Journal} (ready : journal.Ready) (calls : List LogCall) :
    (journal.run calls).Ready := by
  induction calls generalizing journal with
  | nil => exact ready
  | cons call rest ih => exact ih (ready.call call)

theorem allFail_writes (journal : Journal) (messages : List Message) :
    journal.AllFail (messages.map LogCall.write) := by
  induction messages generalizing journal with
  | nil => exact allFail_nil journal
  | cons message rest ih => exact ih (journal.write message)

theorem writeAll_eq_run (journal : Journal) (messages : List Message) :
    journal.writeAll messages = journal.run (messages.map LogCall.write) := by
  rw [writeAll, run, List.foldl_map]
  rfl

/-- Messages add the lines of those that go to a target. -/
theorem bytes_writeAll {journal : Journal} (ready : journal.Ready) (messages : List Message)
    (target : LogTarget) :
    (journal.writeAll messages).outputs.bytes target =
      journal.outputs.bytes target ++ messages.flatMap fun message =>
        if target? journal.writer message.kind = some target then line message else [] := by
  rw [writeAll_eq_run]
  rcases run_of_allFail ready (journal.allFail_writes messages) with ⟨-, -, -, bytes⟩
  rw [bytes, LogCall.linesTo, List.flatMap_map]
  rfl

/-- Whether access lines have a target of their own, apart from that of errors. -/
def KeepsApart (journal : Journal) (access : LogTarget) : Prop :=
  target? journal.writer .access = some access ∧ target? journal.writer .error ≠ some access

theorem KeepsApart.target?_ne {journal : Journal} {access : LogTarget}
    (apart : journal.KeepsApart access) {kind : MessageKind}
    (isFault : kind = .warning ∨ kind = .error) : target? journal.writer kind ≠ some access := by
  intro isTarget
  apply apart.2
  rw [← isTarget]
  rcases isFault with rfl | rfl
  · cases isSet : journal.writer with
    | none => rfl
    | some writer =>
        rw [isSet, target?_some] at isTarget
        rw [target?_some]
        simp only [LogTarget.route] at isTarget ⊢
        split at isTarget
        · simp_all
        · cases isTarget
  · rfl

theorem keepsApart_of_writer {journal : Journal} {access error : LogTarget} {level : Level}
    (isSet : journal.writer = some ⟨access, error, level⟩) (different : error ≠ access) :
    journal.KeepsApart access := by
  rw [KeepsApart, isSet, target?_some]
  exact ⟨rfl, by simpa [LogTarget.route] using different⟩

theorem KeepsApart.no_lines {journal : Journal} {access : LogTarget}
    (apart : journal.KeepsApart access) {messages : List Message}
    (areFaults : ∀ message ∈ messages, message.kind = .warning ∨ message.kind = .error) :
    (messages.flatMap fun message =>
      if target? journal.writer message.kind = some access then line message else []) = [] := by
  apply List.flatMap_eq_nil_iff.mpr
  intro message mem
  exact if_neg (apart.target?_ne (areFaults message mem))

end Journal

/-! ## Answers -/

theorem Status.newline_not_mem_describe (status : Status) :
    '\n' ∉ status.describe.toList := by
  have code := (Decimal.isWord_digits status.code).not_mem (by decide : '\n'.toNat ≤ 0x20)
  have phrases : ∀ phrase ∈ Status.phrases, '\n' ∉ phrase.2.toList := by decide
  have phrase : '\n' ∉ (status.phrase?.getD "<unknown status code>").toList := by
    unfold phrase?
    cases found : Status.phrases.find? (·.1 == status.code) with
    | none => decide
    | some entry => exact phrases entry (List.mem_of_find?_eq_some found)
  simp [describe, code, phrase]

theorem Reply.errors_toResponse (reply : Reply) (omitBody : Bool) {message : Message}
    (mem : message ∈ (reply.toResponse omitBody).2) :
    message.kind = .error ∧ '\n' ∉ message.text.toList := by
  unfold toResponse at mem
  split at mem
  · simp at mem
  · rename_i fault refused
    have status := reply.status.newline_not_mem_describe
    have reason : '\n' ∉ fault.message.toList := by cases fault <;> decide
    rcases List.mem_singleton.mp mem with rfl
    simp [Message.error, status, reason]

theorem RequestTarget.Unbroken.isWord_lookupText {target : RequestTarget}
    (unbroken : target.Unbroken) : IsWord target.lookupText.toList := by
  have isWord_text {parts : PathQuery} (path : IsWord parts.path.toList)
      (query : ∀ query ∈ parts.query, IsWord query.toList) : IsWord parts.text.toList := by
    unfold PathQuery.text
    split
    · rename_i text isQuery
      simp only [String.toList_append, isWord_append]
      exact ⟨⟨path, by decide⟩, query text isQuery⟩
    · exact path
  rcases unbroken with ⟨path, query⟩
  cases target with
  | origin parts => exact isWord_text path query
  | absolute scheme authority parts =>
      simp only [lookupText]
      split
      · decide
      · apply isWord_text _ query
        simp only [RequestTarget.path] at path
        split at path
        · rename_i isEmpty
          simp_all [isWord_nil]
        · exact path
  | authority => exact isWord_nil

namespace Service

variable {service : Service}

theorem warnings_reply {request : Request} (accepted : request.Accepted) {reply : Reply}
    {warnings : List Message} (replied : service.reply request = .ok (reply, warnings))
    {message : Message} (mem : message ∈ warnings) :
    message.kind = .warning ∧ '\n' ∉ message.text.toList := by
  unfold Service.reply at replied
  simp only at replied
  split at replied
  · rcases bind_eq_ok_iff.mp replied with ⟨found, -, isReply⟩
    cases isReply
    simp at mem
  · cases replied
    have low : '\n'.toNat ≤ 0x20 := by decide
    have method := (Ascii.isWord_of_isToken request.method.isToken).not_mem low
    have target := accepted.unbroken.isWord_lookupText.not_mem low
    rcases List.mem_singleton.mp mem with rfl
    simp [Message.warning, method, target]

/-- An entry about a request that is accepted gives texts on one line. -/
theorem onOneLine_entry {delivery : Delivery} (accepted : delivery.request.Accepted)
    (reply : Reply) : (entry delivery reply).OnOneLine := by
  have low : '\n'.toNat ≤ 0x20 := by decide
  have tight := tight_entry accepted reply
  have method := tight.method.not_mem low
  have uri := tight.uri.not_mem low
  have version := tight.version.not_mem low
  have headerText (name : String) :
      '\n' ∉ (AccessEntry.orDash (delivery.request.headerText? name)).toList := by
    cases found : delivery.request.headerText? name with
    | none => decide
    | some text =>
        rcases Option.bind_eq_some_iff.mp found with ⟨bytes, -, isText⟩
        intro mem
        rcases Ascii.visible_of_mem isText mem with isTab | high
        · cases isTab
        · exact absurd high (by decide)
  intro slot
  cases slot with
  | remoteAddress => exact tight.address.not_mem low
  | localTime =>
      have day := delivery.received.isWord_dayText.not_mem low
      have offset := (delivery.received.isWord_offsetText isWord_nil).not_mem low
      simp [LogVariable.value, entry, Timestamp.toList_logText, day, offset]
  | internetTime => exact delivery.received.isWord_internetText.not_mem low
  | requestTime => exact (Dyadic.isWord_fixedText _ _).not_mem low
  | method => exact method
  | uri => exact uri
  | requestLine => simp [LogVariable.value, AccessEntry.requestLine, method, uri, version]
  | status =>
      have code := (Decimal.isWord_digits (entry delivery reply).status).not_mem low
      simpa [LogVariable.value] using code
  | bodySize =>
      have size := (Decimal.isWord_digits (entry delivery reply).bodySize).not_mem low
      simpa [LogVariable.value] using size
  | range => exact headerText "Range"
  | referer => exact headerText "Referer"
  | userAgent => exact headerText "User-Agent"

/-- Whatever a request that is accepted contains, each message of the answer to it is one line. If
access lines have a target of their own, the answer adds the line about the request to that target,
or nothing if requests are not logged. -/
theorem handle_writes_one_line (inMemory : service.catalogue.InMemory)
    (oneLine : '\n' ∉ service.settings.logging.accessLogFormat.toList) {files : FileTree}
    {calls : List LogCall} {journal : Journal} (reached : (Journal.unset files).run calls = journal)
    {access : LogTarget} (apart : journal.KeepsApart access) (delivery : Delivery)
    (accepted : delivery.request.Accepted) :
    ∃ reply warnings answer, service.reply delivery.request = .ok (reply, warnings) ∧
      service.handle delivery = .ok answer ∧
      (∀ message ∈ answer.messages, IsLine (Journal.line message)) ∧
      (service.logsAccess = true →
        IsLine (Journal.line (.access ((entry delivery reply).line service.format))) ∧
        (journal.writeAll answer.messages).outputs.bytes access =
          journal.outputs.bytes access ++
            Journal.line (.access ((entry delivery reply).line service.format))) ∧
      (service.logsAccess = false →
        (journal.writeAll answer.messages).outputs.bytes access =
          journal.outputs.bytes access) := by
  have ready : journal.Ready := by
    rw [← reached]
    exact (Journal.ready_unset files).run calls
  rcases reply_ok inMemory delivery.request with ⟨⟨reply, warnings⟩, replied⟩
  have lineText := (onOneLine_entry accepted reply).newline_not_mem_line oneLine
  have noWarnings := apart.no_lines fun message mem =>
    Or.inl (warnings_reply accepted replied mem).1
  have noErrors := apart.no_lines fun message mem =>
    Or.inr (reply.errors_toResponse delivery.request.method.isHead mem).1
  refine ⟨reply, warnings, _, replied, handle_of_reply replied, ?_, ?_, ?_⟩
  · intro message mem
    apply Journal.isLine_line
    rcases List.mem_append.mp mem with mem | isError
    · rcases List.mem_append.mp mem with isWarning | isAccess
      · exact (warnings_reply accepted replied isWarning).2
      · unfold accessMessages at isAccess
        split at isAccess
        · rcases List.mem_singleton.mp isAccess with rfl
          exact lineText
        · simp at isAccess
    · exact (reply.errors_toResponse _ isError).2
  · intro logs
    refine ⟨Journal.isLine_line lineText, ?_⟩
    rw [Journal.bytes_writeAll ready, List.flatMap_append, List.flatMap_append, noWarnings,
      noErrors, accessMessages, if_pos logs]
    simp [Message.access, apart.1]
  · intro unlogged
    rw [Journal.bytes_writeAll ready, List.flatMap_append, List.flatMap_append, noWarnings,
      noErrors, accessMessages, if_neg (by simp [unlogged])]
    simp

/-- A referrer with a tab and a line of its own in quotes, written to a file. -/
theorem handle_writes_one_line_quotes :
    let service : Service :=
      { settings :=
          { server := ⟨"127.0.0.1", 80, none⟩
            logging := ⟨"error", true, "$http_referer $request_uri", some "access.log", none⟩
            performance := ⟨75, 30, 30, none⟩
            http := ⟨.collapse⟩ }
        catalogue := ⟨[("/", ⟨[104, 105], "text/plain"⟩)]⟩ }
    let referer : Bytes := [0x22, 0x09, 0x5C, 0x6E, 0x22]
    let request : Request :=
      ⟨⟨"GET", by decide⟩, .origin ⟨"/", none⟩, .v11, ⟨[("referer", [referer])]⟩⟩
    let delivery : Delivery := ⟨request, ⟨.v4 ⟨127, 0, 0, 1⟩, 40000⟩, ⟨0, 0, 0⟩, 0⟩
    let journal := (Journal.unset ⟨[], []⟩).run [.setUp service.settings.logging]
    let access : LogTarget := .file ["access.log"]
    service.catalogue.InMemory ∧ '\n' ∉ service.settings.logging.accessLogFormat.toList ∧
      journal.KeepsApart access ∧ request.Accepted ∧
      ∃ reply warnings answer, service.reply request = .ok (reply, warnings) ∧
        service.handle delivery = .ok answer ∧
        IsLine (Journal.line (.access ((entry delivery reply).line service.format))) ∧
        (journal.writeAll answer.messages).outputs.bytes access =
          journal.outputs.bytes access ++
            Journal.line (.access ((entry delivery reply).line service.format)) := by
  intro service referer request delivery journal access
  have inMemory : service.catalogue.InMemory := by decide
  have oneLine : '\n' ∉ service.settings.logging.accessLogFormat.toList := by decide
  have isSet : ((Journal.unset ⟨[], []⟩).run
      [.setUp ⟨"error", true, "$http_referer $request_uri", some "access.log", none⟩]).writer =
        some ⟨.file ["access.log"], .errorOutput, .error⟩ := by
    cbv
  have apart : journal.KeepsApart access := Journal.keepsApart_of_writer isSet (by decide)
  have grouped : Headers.ofList isHeaderBytes [("referer", referer)] =
      .ok ⟨[("referer", [referer])]⟩ := by
    have isBytes : isHeaderBytes referer = true := by decide
    have isToken : Ascii.isToken "referer" = true := by decide
    have small : Ascii.lower "referer" = "referer" := by cbv
    simp [Headers.ofList, Headers.appendAll, Headers.fault?, Headers.append, Headers.insertGroup,
      Headers.empty, isBytes, isToken, small]
  have accepted : request.Accepted := .of_parts RequestTarget.read_root grouped .v11
  rcases handle_writes_one_line inMemory oneLine rfl apart delivery accepted with
    ⟨reply, warnings, answer, replied, handled, -, logged, -⟩
  exact ⟨inMemory, oneLine, apart, accepted, reply, warnings, answer, replied, handled, logged rfl⟩

end Service

end RangeServer
