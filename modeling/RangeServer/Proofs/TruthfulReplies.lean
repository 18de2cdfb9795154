import Mathlib
import RangeServer.Proofs.Replies

/-!
# Replies describe themselves truthfully

A client trusts what the headers of a reply say about its body. This file reads the headers back as
a client does: the length of the body from one header, the window and the full length from another.
`Catalogue.reply_truthful` shows that every reply to every path, with any range header under any
policy, says the truth: it speaks about the first resource registered under the path, and each count
in it is the count of the bytes that it carries.

The replies are few, so the facts about headers are proved once for each of them; the reply to a
path is then one of these by the lemmas on `Catalogue.reply`.
-/

namespace RangeServer

/-! ## Content ranges read back -/

namespace ContentRange

def unit : List Char := "bytes ".toList

/-- The window and the full length that a content range gives, if it gives a window. -/
def read? (text : String) : Option (ByteWindow × Nat) :=
  let offsets := text.toList.drop unit.length
  let behindDash := (offsets.dropWhile (· != '-')).drop 1
  let behindSlash := (behindDash.dropWhile (· != '/')).drop 1
  if unit.isPrefixOf text.toList then do
    let first ← Decimal.read? (offsets.takeWhile (· != '-'))
    let last ← Decimal.read? (behindDash.takeWhile (· != '/'))
    let length ← Decimal.read? behindSlash
    return (⟨first, last⟩, length)
  else none

theorem read?_contentRange (window : ByteWindow) (length : Nat) :
    read? (Reply.contentRange window length) = some (window, length) := by
  -- Grouped by the marks, each numeral stands in front of the mark that ends it.
  have written : (Reply.contentRange window length).toList =
      unit ++ (Decimal.digits window.first ++ '-' ::
        (Decimal.digits window.last ++ '/' :: Decimal.digits length)) := by
    simp only [Reply.contentRange, String.toList_append, Decimal.toList_text, List.append_assoc]
    rfl
  have dash : Char.isDigit '-' = false := rfl
  have slash : Char.isDigit '/' = false := rfl
  have firstNumeral := Decimal.isNumeral_digits window.first
  have lastNumeral := Decimal.isNumeral_digits window.last
  simp only [read?, written, List.drop_left, Decimal.takeWhile_append_mark firstNumeral dash,
    Decimal.dropWhile_append_mark firstNumeral dash, List.drop_one, List.tail_cons,
    Decimal.takeWhile_append_mark lastNumeral slash,
    Decimal.dropWhile_append_mark lastNumeral slash, Decimal.read?_digits]
  simp

end ContentRange

/-! ## What a reply says of itself -/

namespace Reply

/-- A reply that describes itself: no header name occurs twice in it, whatever its case, the length
that it gives is the number of bytes of its body, and only a refused range goes without a length. -/
structure SelfDescribing (reply : Reply) : Prop where
  namesOnce : (reply.headers.map fun header => Ascii.lower header.1).Nodup
  lengthExact : ∀ text, reply.value? "Content-Length" = some text →
    Decimal.read? text.toList = some reply.body.length
  lengthMissing : reply.value? "Content-Length" = none → reply.status = .rangeNotSatisfiable

/-- A reply to a path that says the truth about the catalogue, by its status: it names a path that
is not registered, or it speaks about the first resource under the path, of which it brings the
whole content, the bytes of one window with both its ends, or the full length alone. -/
inductive Truthful (catalogue : Catalogue) (path : String) (reply : Reply) : Prop where
  | notFound (unregistered : path ∉ catalogue.paths) (status : reply.status = .notFound)
      (body : reply.body = Utf8.encode ("Not found: " ++ path))
      (length : reply.value? "Content-Length" =
        some (Decimal.text ("Not found: " ++ path).utf8ByteSize))
  | whole {resource : Resource} (first : catalogue.FirstUnder path resource)
      (status : reply.status = .ok) (body : reply.body = resource.content)
      (mediaType : reply.value? "Content-Type" = some resource.mediaType)
      (range : reply.value? "Content-Range" = none)
  | part {resource : Resource} {window : ByteWindow}
      (first : catalogue.FirstUnder path resource) (status : reply.status = .partialContent)
      (within : window.Within resource.size)
      (body : reply.body =
        (resource.content.drop window.first).take (window.last - window.first + 1))
      (mediaType : reply.value? "Content-Type" = some resource.mediaType)
      (range : (reply.value? "Content-Range").bind ContentRange.read? =
        some (window, resource.size))
      (length : reply.value? "Content-Length" =
        some (Decimal.text (window.last - window.first + 1)))
  | unsatisfiable {resource : Resource} (first : catalogue.FirstUnder path resource)
      (status : reply.status = .rangeNotSatisfiable) (body : reply.body = [])
      (mediaType : reply.value? "Content-Type" = none)
      (range : reply.value? "Content-Range" =
        some ("bytes */" ++ Decimal.text resource.size))

/-- A reply with a length describes itself if its names are different and the length is that of
its body. -/
theorem SelfDescribing.of_length {reply : Reply} {names : List String}
    (lowered : (reply.headers.map fun header => Ascii.lower header.1) = names)
    (different : names.Nodup)
    (length : reply.value? "Content-Length" = some (Decimal.text reply.body.length)) :
    reply.SelfDescribing where
  namesOnce := lowered ▸ different
  lengthExact := by
    intro text found
    rw [length] at found
    rw [← Option.some.inj found, Decimal.toList_text, Decimal.read?_digits]
  lengthMissing := by
    intro missing
    simp [length] at missing

theorem mediaType_whole (resource : Resource) :
    (whole resource).value? "Content-Type" = some resource.mediaType := by cbv

theorem mediaType_cut (resource : Resource) (window : ByteWindow) :
    (cut resource window).value? "Content-Type" = some resource.mediaType := by cbv

theorem mediaType_unsatisfiable (length : Nat) :
    (unsatisfiable length).value? "Content-Type" = none := by cbv

theorem contentLength_whole (resource : Resource) :
    (whole resource).value? "Content-Length" = some (Decimal.text resource.size) := by cbv

theorem contentLength_cut (resource : Resource) (window : ByteWindow) :
    (cut resource window).value? "Content-Length" =
      some (Decimal.text (window.last - window.first + 1)) := by cbv

theorem contentRange_whole (resource : Resource) :
    (whole resource).value? "Content-Range" = none := by cbv

theorem contentRange_cut (resource : Resource) (window : ByteWindow) :
    (cut resource window).value? "Content-Range" =
      some (contentRange window resource.size) := by cbv

theorem contentRange_unsatisfiable (length : Nat) :
    (unsatisfiable length).value? "Content-Range" =
      some ("bytes */" ++ Decimal.text length) := by cbv

theorem contentLength_unsatisfiable (length : Nat) :
    (unsatisfiable length).value? "Content-Length" = none := by cbv

theorem contentLength_notFound (path : String) :
    (notFound path).value? "Content-Length" =
      some (Decimal.text (Utf8.encode ("Not found: " ++ path)).length) := by cbv

theorem selfDescribing_whole (resource : Resource) : (whole resource).SelfDescribing := by
  have lowered : ((whole resource).headers.map fun header => Ascii.lower header.1) =
      ["content-type", "accept-ranges", "content-length"] := by cbv
  exact .of_length lowered (by decide) (contentLength_whole resource)

theorem selfDescribing_cut {resource : Resource} {window : ByteWindow}
    (within : window.Within resource.size) : (cut resource window).SelfDescribing := by
  have lowered : ((cut resource window).headers.map fun header => Ascii.lower header.1) =
      ["content-type", "accept-ranges", "content-range", "content-length"] := by cbv
  have length := contentLength_cut resource window
  rw [← length_body_cut within] at length
  exact .of_length lowered (by decide) length

theorem selfDescribing_unsatisfiable (length : Nat) : (unsatisfiable length).SelfDescribing where
  namesOnce := by simp [unsatisfiable]
  lengthExact := by
    intro text found
    simp [contentLength_unsatisfiable] at found
  lengthMissing := fun _ => rfl

theorem selfDescribing_notFound (path : String) : (notFound path).SelfDescribing := by
  have lowered : ((notFound path).headers.map fun header => Ascii.lower header.1) =
      ["content-type", "content-length"] := by cbv
  exact .of_length lowered (by decide) (contentLength_notFound path)

theorem selfDescribing_exact {resource : Resource} {outcome : RangeOutcome}
    (within : outcome.Within resource.size) : (exact resource outcome).SelfDescribing := by
  cases outcome with
  | whole => exact selfDescribing_whole resource
  | part window => exact selfDescribing_cut within
  | unsatisfiable => exact selfDescribing_unsatisfiable resource.size

theorem truthful_notFound {catalogue : Catalogue} {path : String}
    (unregistered : path ∉ catalogue.paths) : (notFound path).Truthful catalogue path := by
  have length := contentLength_notFound path
  rw [Utf8.length_encode] at length
  exact .notFound unregistered rfl rfl length

theorem truthful_exact {catalogue : Catalogue} {path : String} {resource : Resource}
    (first : catalogue.FirstUnder path resource) {outcome : RangeOutcome}
    (within : outcome.Within resource.size) :
    (exact resource outcome).Truthful catalogue path := by
  cases outcome with
  | whole =>
      exact .whole first rfl rfl (mediaType_whole resource) (contentRange_whole resource)
  | part window =>
      refine .part first rfl within ?_ (mediaType_cut resource window) ?_
        (contentLength_cut resource window)
      · rw [exact, body_cut, Nat.succ_sub within.1]
      · rw [exact, contentRange_cut, Option.bind_some, ContentRange.read?_contentRange]
  | unsatisfiable =>
      exact .unsatisfiable first rfl rfl (mediaType_unsatisfiable resource.size)
        (contentRange_unsatisfiable resource.size)

theorem status_exact_ne_notFound (resource : Resource) (outcome : RangeOutcome) :
    (exact resource outcome).status ≠ .notFound := by
  cases outcome with
  | whole => exact (by decide : Status.ok ≠ .notFound)
  | part window => exact (by decide : Status.partialContent ≠ .notFound)
  | unsatisfiable => exact (by decide : Status.rangeNotSatisfiable ≠ .notFound)

end Reply

/-- Each path has a reply whatever range is asked for, and the reply describes itself truthfully. -/
theorem Catalogue.reply_truthful {catalogue : Catalogue} (inMemory : catalogue.InMemory)
    (path : String) (range : Option String) (policy : PastEndPolicy) :
    ∃ reply, catalogue.reply path range policy = .ok reply ∧
      (reply.status = .notFound ↔ path ∉ catalogue.paths) ∧
      reply.SelfDescribing ∧ reply.Truthful catalogue path := by
  rcases catalogue.unregistered_or_firstUnder path with unregistered | ⟨resource, first⟩
  · refine ⟨_, reply_of_unregistered unregistered range policy, ?_, ?_, ?_⟩
    · exact iff_of_true rfl unregistered
    · exact Reply.selfDescribing_notFound path
    · exact Reply.truthful_notFound unregistered
  · rcases RangeOutcome.ofHeader_within range resource.size policy with ⟨outcome, isRead, within⟩
    refine ⟨_, reply_of_firstUnder inMemory first isRead, ?_, ?_, ?_⟩
    · exact iff_of_false (Reply.status_exact_ne_notFound resource outcome)
        (fun unregistered => unregistered first.mem_paths)
    · exact Reply.selfDescribing_exact within
    · exact Reply.truthful_exact first within

/-- A path with characters beyond ASCII, registered twice, the first time without content. -/
theorem Catalogue.reply_truthful_registered_twice :
    let catalogue : Catalogue := ⟨[("/é", ⟨[], "text/plain"⟩), ("/é", ⟨[104, 105], "text/plain"⟩)]⟩
    catalogue.InMemory ∧ ∃ reply, catalogue.reply "/é" (some "bytes=0-") .collapse = .ok reply ∧
      (reply.status = .notFound ↔ "/é" ∉ catalogue.paths) ∧
      reply.SelfDescribing ∧ reply.Truthful catalogue "/é" := by
  intro catalogue
  have inMemory : catalogue.InMemory := by decide
  exact ⟨inMemory, reply_truthful inMemory "/é" (some "bytes=0-") .collapse⟩

end RangeServer
