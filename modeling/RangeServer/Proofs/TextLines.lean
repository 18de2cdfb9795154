import Mathlib
import RangeServer.Proofs.AcceptedRequests
import RangeServer.Proofs.AccessRecords

/-!
# Reading text lines back

A common log line is ten words with blanks between them, whatever the request is, so cutting it at
its blanks gives the words back. A combined line goes on with the referrer and the agent between
quotes, and nothing keeps quotes and blanks out of these two. Entries with the same combined line
agree on all that stands in front; they agree on referrer and agent as well unless the line can be
cut between the two in more than one place.
-/

namespace RangeServer

namespace AccessEntry

variable {entry other : AccessEntry}

/-- What stands between the blanks of a common line. -/
def commonPieces (entry : AccessEntry) : List (List Char) :=
  [entry.remoteAddress.toList, ['-'], ['-'], '[' :: entry.time.dayText,
    entry.time.offsetText [] ++ [']'], '"' :: entry.method.toList, entry.uri.toList,
    "HTTP/".toList ++ (entry.version.toList ++ ['"']), Decimal.digits entry.status,
    Decimal.digits entry.bodySize]

theorem toList_commonLine (entry : AccessEntry) :
    entry.commonLine.toList = [' '].intercalate entry.commonPieces := by
  simp [commonLine, commonPieces, requestLine, Timestamp.toList_logText]

theorem Tight.isWord_commonPieces (tight : entry.Tight) :
    ∀ piece ∈ entry.commonPieces, IsWord piece := by
  simp only [commonPieces, List.forall_mem_cons, isWord_cons, isWord_append]
  refine ⟨tight.address, by decide, by decide, ⟨by decide, entry.time.isWord_dayText⟩,
    ⟨entry.time.isWord_offsetText isWord_nil, by decide⟩, ⟨by decide, tight.method⟩, tight.uri,
    ⟨by decide, tight.version, by decide⟩, Decimal.isWord_digits _, Decimal.isWord_digits _, ?_⟩
  simp

/-- Cut at its blanks, a common line gives its pieces back. -/
theorem Tight.splitOn_commonLine (tight : entry.Tight) :
    entry.commonLine.toList.splitOn ' ' = entry.commonPieces := by
  rw [toList_commonLine]
  apply List.splitOn_intercalate
  · intro piece mem
    exact (tight.isWord_commonPieces piece mem).not_mem (by decide)
  · simp [commonPieces]

theorem congr_of_commonPieces (same : entry.commonPieces = other.commonPieces) :
    entry.requestLine = other.requestLine ∧ entry.status = other.status ∧
      entry.bodySize = other.bodySize := by
  simp only [commonPieces, List.cons.injEq, List.append_cancel_left_eq,
    List.append_cancel_right_eq, String.toList_inj] at same
  rcases same with ⟨-, -, -, -, -, ⟨-, method⟩, uri, version, status, size, -⟩
  refine ⟨?_, Decimal.digits_inj status, Decimal.digits_inj size⟩
  rw [requestLine, requestLine, method, uri, version]

/-! ## Combined lines -/

/-- The end of a combined line, behind the blank that follows the common line. -/
def quotedPart (entry : AccessEntry) : List Char :=
  '"' :: ((orDash entry.referer).toList ++ '"' :: ' ' :: '"' ::
    ((orDash entry.userAgent).toList ++ ['"']))

theorem toList_combinedLine (entry : AccessEntry) :
    entry.combinedLine.toList = entry.commonLine.toList ++ ' ' :: entry.quotedPart := by
  simp [combinedLine, quotedPart]

/-- Entries with the same combined line have the same common line and the same end. -/
theorem Tight.parts_of_combinedLine (tight : entry.Tight) (otherTight : other.Tight)
    (same : entry.combinedLine = other.combinedLine) :
    entry.commonPieces = other.commonPieces ∧ entry.quotedPart = other.quotedPart := by
  have cuts (entry : AccessEntry) (tight : entry.Tight) : entry.combinedLine.toList.splitOn ' ' =
      entry.commonPieces ++ entry.quotedPart.splitOn ' ' := by
    rw [toList_combinedLine, List.splitOn_append_cons_self, tight.splitOn_commonLine]
  have sameCuts : entry.commonPieces ++ entry.quotedPart.splitOn ' ' =
      other.commonPieces ++ other.quotedPart.splitOn ' ' := by
    rw [← cuts entry tight, ← cuts other otherTight, same]
  rcases List.append_inj sameCuts rfl with ⟨pieces, ends⟩
  have joined : [' '].intercalate (entry.quotedPart.splitOn ' ') =
      [' '].intercalate (other.quotedPart.splitOn ' ') := by rw [ends]
  rw [List.intercalate_splitOn, List.intercalate_splitOn] at joined
  exact ⟨pieces, joined⟩

end AccessEntry

/-! ## Two texts between quotes -/

/-- One pair of texts can pass for another between quotes: its front ends where that of the other
goes on with a quote and a blank, and its back ends in a blank, a quote and the other back. -/
structure QuotesPass (front back otherFront otherBack : List Char) : Prop where
  front : ∃ rest, otherFront = front ++ '"' :: ' ' :: rest
  back : ∃ rest, back = rest ++ ' ' :: '"' :: otherBack

theorem quoted_overhang {back middle otherBack : List Char}
    (same : '"' :: ' ' :: '"' :: back = middle ++ '"' :: ' ' :: '"' :: otherBack) :
    middle = [] ∧ back = otherBack ∨
      (∃ rest, middle = '"' :: ' ' :: rest) ∧ ∃ rest, back = rest ++ ' ' :: '"' :: otherBack := by
  -- One character would have to be a quote and a blank at once; two are the quote and the blank,
  -- and a third is the other quote.
  rcases middle with _ | ⟨first, _ | ⟨second, _ | ⟨third, rest⟩⟩⟩
  · left
    simpa using same
  · simp at same
  · right
    simp only [List.cons_append, List.nil_append, List.cons.injEq] at same
    rcases same with ⟨rfl, rfl, -, rfl⟩
    exact ⟨⟨[], rfl⟩, [], rfl⟩
  · right
    simp only [List.cons_append, List.cons.injEq] at same
    rcases same with ⟨rfl, rfl, rfl, rfl⟩
    exact ⟨⟨'"' :: rest, rfl⟩, rest ++ ['"'], by simp⟩

theorem quoted_cut {front back otherFront otherBack : List Char}
    (same : front ++ '"' :: ' ' :: '"' :: back = otherFront ++ '"' :: ' ' :: '"' :: otherBack) :
    front = otherFront ∧ back = otherBack ∨ QuotesPass front back otherFront otherBack ∨
      QuotesPass otherFront otherBack front back := by
  rcases List.append_eq_append_iff.mp same with ⟨middle, rfl, ends⟩ | ⟨middle, rfl, ends⟩
  · rcases quoted_overhang ends with ⟨rfl, rfl⟩ | ⟨⟨rest, rfl⟩, covers⟩
    · exact Or.inl ⟨(List.append_nil _).symm, rfl⟩
    · exact Or.inr (Or.inl ⟨⟨rest, rfl⟩, covers⟩)
  · rcases quoted_overhang ends with ⟨rfl, rfl⟩ | ⟨⟨rest, rfl⟩, covers⟩
    · exact Or.inl ⟨List.append_nil _, rfl⟩
    · exact Or.inr (Or.inr ⟨⟨rest, rfl⟩, covers⟩)

/-! ## Entries about requests -/

namespace AccessEntry

/-- Whether some service records an entry, about some request that is accepted. -/
def Recorded (entry : AccessEntry) : Prop :=
  ∃ (service : Service) (delivery : Delivery) (reply : Reply) (warnings : List Message),
    service.logsAccess = true ∧ delivery.request.Accepted ∧
      service.reply delivery.request = .ok (reply, warnings) ∧
      entry = Service.entry delivery reply

theorem Recorded.tight {entry : AccessEntry} (recorded : entry.Recorded) : entry.Tight := by
  rcases recorded with ⟨service, delivery, reply, warnings, -, accepted, -, rfl⟩
  exact Service.tight_entry accepted reply

/-- A service that writes combined lines. -/
def combinedService : Service where
  settings :=
    { server := ⟨"127.0.0.1", 80, none⟩
      logging := ⟨"info", true, "combined", none, none⟩
      performance := ⟨75, 30, 30, none⟩
      http := ⟨.collapse⟩ }
  catalogue := ⟨[("/", ⟨[104, 105], "text/plain"⟩)]⟩

theorem isToken_get : Ascii.isToken "GET" = true := by decide

/-- A request for the root with a referrer and an agent. -/
def quotingDelivery (referer agent : Bytes) : Delivery where
  request :=
    ⟨⟨"GET", isToken_get⟩, .origin ⟨"/", none⟩, .v11,
      ⟨[("referer", [referer]), ("user-agent", [agent])]⟩⟩
  peer := ⟨.v4 ⟨127, 0, 0, 1⟩, 40000⟩
  received := ⟨0, 0, 0⟩
  microseconds := 0

/-- The entry about a request for the root with a referrer and an agent. -/
def quotingEntry (referer agent : Bytes) : AccessEntry :=
  Service.entry (quotingDelivery referer agent) (.whole ⟨[104, 105], "text/plain"⟩)

theorem headerText?_quoting (referer agent : Bytes) :
    (quotingDelivery referer agent).request.headerText? "Range" = none ∧
      (quotingEntry referer agent).referer = Ascii.visibleText? referer ∧
      (quotingEntry referer agent).userAgent = Ascii.visibleText? agent := by
  have range : Ascii.lower "Range" = "range" := by cbv
  have first : Ascii.lower "Referer" = "referer" := by cbv
  have second : Ascii.lower "User-Agent" = "user-agent" := by cbv
  simp [quotingEntry, Service.entry, quotingDelivery, Request.headerText?, Headers.first?,
    Headers.values, range, first, second]

theorem recorded_quoting {referer agent : Bytes} (isReferer : isHeaderBytes referer = true)
    (isAgent : isHeaderBytes agent = true) : (quotingEntry referer agent).Recorded := by
  refine ⟨combinedService, quotingDelivery referer agent, _, [], rfl, ?_, ?_, rfl⟩
  · have grouped : Headers.ofList isHeaderBytes [("referer", referer), ("user-agent", agent)] =
        .ok ⟨[("referer", [referer]), ("user-agent", [agent])]⟩ := by
      have tokens : Ascii.isToken "referer" = true ∧ Ascii.isToken "user-agent" = true := by decide
      have first : Ascii.lower "referer" = "referer" := by cbv
      have second : Ascii.lower "user-agent" = "user-agent" := by cbv
      simp [Headers.ofList, Headers.appendAll, Headers.fault?, Headers.append, Headers.insertGroup,
        Headers.empty, isReferer, isAgent, tokens, first, second]
    exact .of_parts RequestTarget.read_root grouped .v11
  · apply Service.reply_of_isServed rfl
    rw [(headerText?_quoting referer agent).1]
    rfl

/-- A quote, a blank and a quote within one of two texts in quotes: the line does not say which. -/
theorem combinedLine_quoting :
    (quotingEntry [0x61] [0x62, 0x22, 0x20, 0x22, 0x63]).combinedLine =
      (quotingEntry [0x61, 0x22, 0x20, 0x22, 0x62] [0x63]).combinedLine := by
  rcases headerText?_quoting [0x61] [0x62, 0x22, 0x20, 0x22, 0x63] with ⟨-, referer, agent⟩
  rcases headerText?_quoting [0x61, 0x22, 0x20, 0x22, 0x62] [0x63] with
    ⟨-, otherReferer, otherAgent⟩
  rw [← String.toList_inj, toList_combinedLine, toList_combinedLine, quotedPart, quotedPart,
    referer, agent, otherReferer, otherAgent]
  rfl

/-- Whether referrer and agent of an entry can pass for those of another. -/
def PassesFor (entry other : AccessEntry) : Prop :=
  QuotesPass (orDash entry.referer).toList (orDash entry.userAgent).toList
    (orDash other.referer).toList (orDash other.userAgent).toList

/-- Entries about requests with the same combined line agree on request line, status and size, and
on referrer and agent as well unless those of one can pass for those of the other. -/
theorem combinedLine_determines {entry other : AccessEntry} (recorded : entry.Recorded)
    (otherRecorded : other.Recorded) (same : entry.combinedLine = other.combinedLine) :
    entry.requestLine = other.requestLine ∧ entry.status = other.status ∧
      entry.bodySize = other.bodySize ∧
      (orDash entry.referer = orDash other.referer ∧
          orDash entry.userAgent = orDash other.userAgent ∨
        entry.PassesFor other ∨ other.PassesFor entry) := by
  rcases recorded.tight.parts_of_combinedLine otherRecorded.tight same with ⟨pieces, ends⟩
  rcases congr_of_commonPieces pieces with ⟨requestLine, status, bodySize⟩
  refine ⟨requestLine, status, bodySize, ?_⟩
  have quotes : (orDash entry.referer).toList ++ '"' :: ' ' :: '"' ::
        (orDash entry.userAgent).toList =
      (orDash other.referer).toList ++ '"' :: ' ' :: '"' :: (orDash other.userAgent).toList := by
    apply (List.append_left_inj ['"']).mp
    simpa [quotedPart] using ends
  rcases quoted_cut quotes with ⟨referer, agent⟩ | passes
  · exact Or.inl ⟨String.toList_inj.mp referer, String.toList_inj.mp agent⟩
  · exact Or.inr passes

/-- The referrer of one request goes on in the agent of the other. -/
theorem combinedLine_determines_request :
    let entry := quotingEntry [0x61] [0x62, 0x22, 0x20, 0x22, 0x63]
    let other := quotingEntry [0x61, 0x22, 0x20, 0x22, 0x62] [0x63]
    entry.Recorded ∧ other.Recorded ∧ entry.combinedLine = other.combinedLine ∧
      entry.requestLine = other.requestLine ∧ entry.status = other.status ∧
      entry.bodySize = other.bodySize ∧
      (orDash entry.referer = orDash other.referer ∧
          orDash entry.userAgent = orDash other.userAgent ∨
        entry.PassesFor other ∨ other.PassesFor entry) := by
  intro entry other
  have recorded : entry.Recorded := recorded_quoting (by decide) (by decide)
  have otherRecorded : other.Recorded := recorded_quoting (by decide) (by decide)
  exact ⟨recorded, otherRecorded, combinedLine_quoting,
    combinedLine_determines recorded otherRecorded combinedLine_quoting⟩

/-- Two requests with different referrers and agents have one line. -/
theorem combinedLine_two_readings :
    let entry := quotingEntry [0x61] [0x62, 0x22, 0x20, 0x22, 0x63]
    let other := quotingEntry [0x61, 0x22, 0x20, 0x22, 0x62] [0x63]
    entry.Recorded ∧ other.Recorded ∧ entry.combinedLine = other.combinedLine ∧
      entry.referer = some "a" ∧ entry.userAgent = some "b\" \"c" ∧
      other.referer = some "a\" \"b" ∧ other.userAgent = some "c" := by
  intro entry other
  have texts := (headerText?_quoting [0x61] [0x62, 0x22, 0x20, 0x22, 0x63]).2
  have otherTexts := (headerText?_quoting [0x61, 0x22, 0x20, 0x22, 0x62] [0x63]).2
  exact ⟨recorded_quoting (by decide) (by decide), recorded_quoting (by decide) (by decide),
    combinedLine_quoting, texts.1, texts.2, otherTexts⟩

end AccessEntry

end RangeServer
