import Mathlib
import RangeServer.Proofs.AccessLines
import RangeServer.Proofs.HeaderGroups

/-!
# Replies made ready to send

A reply goes out with all that it has or with nothing of it. If each of its headers may be sent, the
response has the status, the body and every header of the reply, and the log stays as it was. If
one may not, the response is a bare internal error, whatever the other headers are, and the log gets
one line about the first header that may not be sent. What may be sent is said here of the bytes of
a value, as they would stand on the wire.

The headers of a response are those of the reply, grouped by name: to look a name up in the reply or
in the response comes to the same.
-/

namespace RangeServer

/-! ## Headers that may be sent -/

/-- Whether a header may be sent: its name is a token, and among the bytes of its value there is no
control but the tab and no 0x7F. -/
def MaySend (header : String × String) : Prop :=
  Ascii.isToken header.1 = true ∧
    ∀ byte ∈ Utf8.encode header.2, (0x20 ≤ byte.toNat ∨ byte.toNat = 0x09) ∧ byte.toNat ≠ 0x7F

/-- An ASCII character of a text is among the bytes of the text. -/
theorem Utf8.mem_encode_of_mem {text : String} {c : Char} (mem : c ∈ text.toList)
    (ascii : c.toNat < 0x80) : UInt8.ofNat c.toNat ∈ encode text := by
  apply List.mem_flatMap.mpr
  refine ⟨c, mem, ?_⟩
  rw [encodeChar_of_ascii ascii]
  exact List.mem_singleton_self _

theorem isForbiddenControl_eq_false_iff {c : Char} :
    Ascii.isForbiddenControl c = false ↔ (0x20 ≤ c.toNat ∨ c.toNat = 0x09) ∧ c.toNat ≠ 0x7F := by
  have tab : c = '\t' ↔ c.toNat = 0x09 := by
    rw [← Char.toNat_inj]
    rfl
  simp only [Ascii.isForbiddenControl, Bool.or_eq_false_iff, Bool.and_eq_false_iff,
    decide_eq_false_iff_not, bne_eq_false_iff_eq, beq_eq_false_iff_ne, tab]
  omega

/-- The characters of a text may be sent exactly if its bytes may. -/
theorem isHeaderText_iff {text : String} :
    isHeaderText text = true ↔ ∀ byte ∈ Utf8.encode text,
      (0x20 ≤ byte.toNat ∨ byte.toNat = 0x09) ∧ byte.toNat ≠ 0x7F := by
  simp only [isHeaderText, List.all_eq_true, Bool.not_eq_true', isForbiddenControl_eq_false_iff]
  constructor
  · intro characters byte mem
    by_cases ascii : byte.toNat < 0x80
    · rcases List.mem_flatMap.mp mem with ⟨c, isChar, encoded⟩
      rw [← Utf8.toNat_eq_of_mem_encodeChar encoded ascii]
      exact characters c isChar
    · omega
  · intro bytes c mem
    by_cases ascii : c.toNat < 0x80
    · have value : (UInt8.ofNat c.toNat).toNat = c.toNat := by
        rw [UInt8.toNat_ofNat']
        omega
      rw [← value]
      exact bytes _ (Utf8.mem_encode_of_mem mem ascii)
    · omega

theorem fault?_eq_none_iff_maySend {header : String × String} :
    Headers.fault? isHeaderText header = none ↔ MaySend header := by
  rw [Headers.fault?_eq_none_iff, isHeaderText_iff, MaySend]

/-- What is said of a header that may not be sent; its name is looked at first. -/
def objection (header : String × String) : String :=
  if Ascii.isToken header.1 then "failed to parse header value" else "invalid HTTP header name"

theorem message_of_fault? {header : String × String} {fault : HeaderFault}
    (refused : Headers.fault? isHeaderText header = some fault) :
    fault.message = objection header := by
  unfold Headers.fault? at refused
  unfold objection
  split at refused
  · rename_i noToken
    cases refused
    rw [if_neg (by simpa using noToken)]
    rfl
  · rename_i token
    split at refused
    · cases refused
      rw [if_pos (by simpa using token)]
      rfl
    · cases refused

namespace Reply

theorem toResponse_of_maySend {reply : Reply} (maySend : ∀ header ∈ reply.headers, MaySend header)
    (omitBody : Bool) :
    reply.toResponse omitBody =
      (⟨reply.status, .collect reply.headers, if omitBody then [] else reply.body⟩, []) := by
  have unrefused : reply.headers.findSome? (Headers.fault? isHeaderText) = none := by
    apply List.findSome?_eq_none_iff.mpr
    intro header mem
    exact fault?_eq_none_iff_maySend.mpr (maySend header mem)
  rw [toResponse, Headers.ofList_eq, unrefused]

/-- The line in the log about a header that may not be sent. -/
def refusal (reply : Reply) (header : String × String) : Message :=
  .error ("Failed to build " ++ reply.status.describe ++ " response: " ++ objection header)

theorem toResponse_of_first {reply : Reply} {front rest : List (String × String)}
    {header : String × String} (headers : reply.headers = front ++ header :: rest)
    (before : ∀ earlier ∈ front, MaySend earlier) (refused : ¬MaySend header) (omitBody : Bool) :
    reply.toResponse omitBody =
      (⟨.internalServerError, .empty, []⟩, [reply.refusal header]) := by
  cases isFault : Headers.fault? isHeaderText header with
  | none => exact absurd (fault?_eq_none_iff_maySend.mp isFault) refused
  | some fault =>
      have first : reply.headers.findSome? (Headers.fault? isHeaderText) = some fault := by
        apply List.findSome?_eq_some_iff.mpr
        refine ⟨front, header, rest, headers, isFault, ?_⟩
        intro earlier mem
        exact fault?_eq_none_iff_maySend.mpr (before earlier mem)
      rw [toResponse, Headers.ofList_eq, first]
      simp only [refusal, message_of_fault? isFault]

theorem exists_first {headers : List (String × String)}
    (refused : ¬∀ header ∈ headers, MaySend header) :
    ∃ front header rest, headers = front ++ header :: rest ∧
      (∀ earlier ∈ front, MaySend earlier) ∧ ¬MaySend header := by
  cases found : headers.findSome? (Headers.fault? isHeaderText) with
  | none =>
      refine absurd ?_ refused
      intro header mem
      exact fault?_eq_none_iff_maySend.mp (List.findSome?_eq_none_iff.mp found header mem)
  | some fault =>
      rcases List.findSome?_eq_some_iff.mp found with ⟨front, header, rest, rfl, isFault, before⟩
      refine ⟨front, header, rest, rfl, ?_, ?_⟩
      · intro earlier mem
        exact fault?_eq_none_iff_maySend.mp (before earlier mem)
      · intro maySend
        rw [fault?_eq_none_iff_maySend.mpr maySend] at isFault
        cases isFault

/-- Either all of a reply goes out, or a bare internal error does and the log gets one line, of a
kind that every log keeps, about the first header that may not be sent. -/
theorem toResponse_all_or_nothing (reply : Reply) (omitBody : Bool) :
    ((∀ header ∈ reply.headers, MaySend header) →
      ∃ headers : Headers String,
        reply.toResponse omitBody =
            (⟨reply.status, headers, if omitBody then [] else reply.body⟩, []) ∧
          headers.toList.Perm (reply.headers.map fun header => (Ascii.lower header.1, header.2))) ∧
      ((¬∀ header ∈ reply.headers, MaySend header) →
        ∃ front header rest, reply.headers = front ++ header :: rest ∧
          (∀ earlier ∈ front, MaySend earlier) ∧ ¬MaySend header ∧
          reply.toResponse omitBody =
            (⟨.internalServerError, .empty, []⟩, [reply.refusal header]) ∧
          (∀ writer, (Journal.target? writer (reply.refusal header).kind).isSome = true) ∧
          IsLine (Journal.line (reply.refusal header))) := by
  constructor
  · intro maySend
    exact ⟨_, toResponse_of_maySend maySend omitBody, Headers.perm_collect reply.headers⟩
  · intro refused
    rcases exists_first refused with ⟨front, header, rest, headers, before, notThis⟩
    have response := toResponse_of_first headers before notThis omitBody
    have isLogged : reply.refusal header ∈ (reply.toResponse omitBody).2 := by
      rw [response]
      exact List.mem_singleton_self _
    refine ⟨front, header, rest, headers, before, notThis, response, ?_,
      Journal.isLine_line (reply.errors_toResponse omitBody isLogged).2⟩
    intro writer
    cases writer <;> rfl

/-- Of two headers that may not be sent, one for its value and one for its name, the first is named,
and the header in front of both does not go out either. -/
theorem toResponse_all_or_nothing_line_break :
    let reply : Reply :=
      { status := .notFound
        headers := [("Content-Type", "text/plain"), ("Allow", "GET\n"), ("a b", "c")]
        body := [0x68, 0x69] }
    let message : Message :=
      ⟨.error, "[ERROR] Failed to build 404 Not Found response: failed to parse header value"⟩
    (¬∀ header ∈ reply.headers, MaySend header) ∧
      reply.toResponse false = (⟨.internalServerError, .empty, []⟩, [message]) := by
  intro reply message
  have typeMay : MaySend ("Content-Type", "text/plain") := by
    rw [← fault?_eq_none_iff_maySend]
    decide
  have allowMayNot : ¬MaySend ("Allow", "GET\n") := by
    rw [← fault?_eq_none_iff_maySend]
    decide
  have refused : ¬∀ header ∈ reply.headers, MaySend header := by
    intro maySend
    exact allowMayNot (maySend _ (by simp [reply]))
  refine ⟨refused, ?_⟩
  rcases (toResponse_all_or_nothing reply false).2 refused with
    ⟨front, header, rest, headers, before, notThis, response, -⟩
  have isAllow : header = ("Allow", "GET\n") := by
    rcases front with _ | ⟨first, _ | ⟨second, others⟩⟩
    · cases headers
      exact absurd typeMay notThis
    · cases headers
      rfl
    · simp only [reply, List.cons_append, List.cons.injEq] at headers
      rcases headers with ⟨-, rfl, -⟩
      exact absurd (before _ (by simp)) allowMayNot
  have isMessage : reply.refusal ("Allow", "GET\n") = message := by decide
  rw [response, isAllow, isMessage]

/-- A response has the headers of the reply and no others: a name has the same first value and the
same values in the same order, whatever its case, and the names come in the order of their first
appearance. -/
theorem toResponse_keeps_headers {reply : Reply}
    (maySend : ∀ header ∈ reply.headers, MaySend header) (omitBody : Bool) :
    ∃ headers : Headers String,
      reply.toResponse omitBody =
          (⟨reply.status, headers, if omitBody then [] else reply.body⟩, []) ∧
        (∀ name, headers.first? name = reply.value? name) ∧
        (∀ name, headers.values name =
          (reply.headers.filter fun header => Ascii.sameLetters header.1 name).map (·.2)) ∧
        headers.names = (reply.headers.map fun header => Ascii.lower header.1).eraseDups ∧
        headers.toList.Perm (reply.headers.map fun header => (Ascii.lower header.1, header.2)) := by
  refine ⟨_, toResponse_of_maySend maySend omitBody, ?_, Headers.values_collect reply.headers,
    Headers.names_collect reply.headers, Headers.perm_collect reply.headers⟩
  intro name
  rw [Headers.first?, Headers.values_collect, List.head?_map, List.head?_filter, value?]

/-- Two names with two values each, in different case and by turns. -/
theorem toResponse_keeps_headers_by_turns :
    let reply : Reply :=
      { status := .ok
        headers := [("Vary", "a"), ("Link", "b"), ("VARY", "c"), ("link", "d")]
        body := [] }
    (∀ header ∈ reply.headers, MaySend header) ∧
      ∃ headers, reply.toResponse false = (⟨.ok, headers, []⟩, []) ∧
        headers.first? "vARY" = some "a" ∧ headers.values "vARY" = ["a", "c"] ∧
        headers.names = ["vary", "link"] ∧
        headers.toList.Perm [("vary", "a"), ("link", "b"), ("vary", "c"), ("link", "d")] := by
  intro reply
  have maySend : ∀ header ∈ reply.headers, MaySend header := by
    simp only [← fault?_eq_none_iff_maySend]
    decide
  rcases toResponse_keeps_headers maySend false with
    ⟨headers, response, first, values, names, perm⟩
  have asked : Ascii.lower "vARY" = "vary" := by cbv
  have vary : Ascii.lower "Vary" = "vary" ∧ Ascii.lower "VARY" = "vary" := by
    constructor <;> cbv
  have link : Ascii.lower "Link" = "link" ∧ Ascii.lower "link" = "link" := by
    constructor <;> cbv
  refine ⟨maySend, headers, response, ?_, ?_, ?_, ?_⟩
  · rw [first]
    simp [value?, reply, Ascii.sameLetters, asked, vary]
  · rw [values]
    simp [reply, Ascii.sameLetters, asked, vary, link]
  · rw [names]
    simp [reply, vary, link, List.eraseDups_cons]
  · simpa [reply, vary, link] using perm

end Reply

end RangeServer
