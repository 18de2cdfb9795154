import Mathlib
import RangeServer.Proofs.TruthfulReplies

/-!
# Ranges that replies name

A partial reply gives its window in a content range, and a client that resumes or repeats a fetch
asks for that window again. The range header that a reply names is the one with the very digits of
its content range. `Catalogue.reply_to_named` shows that asking by the named header gives the reply
itself, under either policy. Ranges that are cut to the end, open, padded with zeros, too long for a
word or collapsed to the first byte are therefore all brought to one form, which stays as it is.

The digits in a content range are those that printing gives, because each numeral stands in front of
the mark that ends it; and the window behind them lies within the content, so that fitting it to the
content once more changes nothing.
-/

namespace RangeServer

/-! ## Windows asked for by their own offsets -/

/-- A window within the content is what a range with its two offsets asks for. -/
theorem ByteWindow.exactOutcome_of_within {window : ByteWindow} {length : Nat}
    (within : window.Within length) (policy : PastEndPolicy) :
    RangeSpec.exactOutcome ⟨window.first, some window.last⟩ length policy = .part window := by
  rcases within with ⟨ordered, beforeEnd⟩
  have uncut : RangeSpec.exactLast ⟨window.first, some window.last⟩ length = window.last := by
    simp only [RangeSpec.exactLast]
    omega
  unfold RangeSpec.exactOutcome
  rw [uncut, if_neg (by simp only; omega), if_neg (by simp only; omega)]

/-! ## The header that a reply names -/

namespace Reply

/-- The text of a content range with given digits. -/
def rangeText (first last length : List Char) : List Char :=
  "bytes ".toList ++ (first ++ '-' :: (last ++ '/' :: length))

/-- Whether a reply names a range header: the header has the digits of the first and of the last
offset that the content range of the reply gives. -/
def Names (reply : Reply) (header : String) : Prop :=
  ∃ first last length, Decimal.isNumeral first = true ∧ Decimal.isNumeral last = true ∧
    Decimal.isNumeral length = true ∧
    reply.value? "Content-Range" = some (String.ofList (rangeText first last length)) ∧
    header.toList = "bytes=".toList ++ (first ++ '-' :: last)

theorem toList_contentRange (window : ByteWindow) (length : Nat) :
    (contentRange window length).toList =
      rangeText (Decimal.digits window.first) (Decimal.digits window.last)
        (Decimal.digits length) := by
  simp only [contentRange, String.toList_append, Decimal.toList_text, List.append_assoc]
  rfl

/-- Numerals are told apart from the marks between them, so a content range has only one reading. -/
theorem rangeText_inj {first last length otherFirst otherLast otherLength : List Char}
    (firstNumeral : Decimal.isNumeral first = true) (lastNumeral : Decimal.isNumeral last = true)
    (otherFirstNumeral : Decimal.isNumeral otherFirst = true)
    (otherLastNumeral : Decimal.isNumeral otherLast = true)
    (same : rangeText first last length = rangeText otherFirst otherLast otherLength) :
    first = otherFirst ∧ last = otherLast := by
  have dash : Char.isDigit '-' = false := rfl
  have slash : Char.isDigit '/' = false := rfl
  have behindUnit := List.append_cancel_left same
  have sameFirst : first = otherFirst := by
    have upToDash := congrArg (List.takeWhile (· != '-')) behindUnit
    rwa [Decimal.takeWhile_append_mark firstNumeral dash,
      Decimal.takeWhile_append_mark otherFirstNumeral dash] at upToDash
  subst sameFirst
  have behindDash := List.cons.inj (List.append_cancel_left behindUnit)
  have upToSlash := congrArg (List.takeWhile (· != '/')) behindDash.2
  rw [Decimal.takeWhile_append_mark lastNumeral slash,
    Decimal.takeWhile_append_mark otherLastNumeral slash] at upToSlash
  exact ⟨rfl, upToSlash⟩

theorem names_cut_iff (resource : Resource) (window : ByteWindow) (header : String) :
    (cut resource window).Names header ↔
      header = RangeSpec.text ⟨window.first, some window.last⟩ := by
  have firstNumeral := Decimal.isNumeral_digits window.first
  have lastNumeral := Decimal.isNumeral_digits window.last
  have text : (RangeSpec.text ⟨window.first, some window.last⟩).toList =
      "bytes=".toList ++ (Decimal.digits window.first ++ '-' :: Decimal.digits window.last) := by
    simp only [RangeSpec.text, Option.map_some, Option.getD_some, String.toList_append,
      Decimal.toList_text, List.append_assoc]
    rfl
  rw [← String.toList_inj, text]
  constructor
  · rintro ⟨first, last, length, isFirst, isLast, -, given, spelled⟩
    rw [contentRange_cut, Option.some.injEq] at given
    have sameText := congrArg String.toList given
    rw [toList_contentRange, String.toList_ofList] at sameText
    rcases rangeText_inj firstNumeral lastNumeral isFirst isLast sameText with ⟨rfl, rfl⟩
    exact spelled
  · intro spelled
    refine ⟨_, _, _, firstNumeral, lastNumeral, Decimal.isNumeral_digits resource.size, ?_, spelled⟩
    rw [contentRange_cut, ← toList_contentRange, String.ofList_toList]

theorem not_names_of_none {reply : Reply} (none : reply.value? "Content-Range" = none)
    (header : String) : ¬reply.Names header := by
  rintro ⟨first, last, length, -, -, -, given, -⟩
  rw [none] at given
  cases given

/-- A refused range names no header: an asterisk stands where a window would give its offsets. -/
theorem not_names_unsatisfiable (length : Nat) (header : String) :
    ¬(unsatisfiable length).Names header := by
  rintro ⟨first, last, total, isFirst, -, -, given, -⟩
  rw [contentRange_unsatisfiable, Option.some.injEq] at given
  have sameText : ("bytes */" ++ Decimal.text length).toList = rangeText first last total := by
    rw [given, String.toList_ofList]
  rw [String.toList_append] at sameText
  change "bytes ".toList ++ '*' :: '/' :: (Decimal.text length).toList = _ at sameText
  have behindUnit := List.append_cancel_left sameText
  cases first with
  | nil => simp [Decimal.isNumeral] at isFirst
  | cons digit rest =>
      have isStar : '*' = digit := (List.cons.inj behindUnit).1
      have isDigit := Decimal.isDigit_of_mem isFirst List.mem_cons_self
      exact Decimal.ne_of_isDigit isDigit rfl isStar.symm

theorem names_exact_iff (resource : Resource) (outcome : RangeOutcome) (header : String) :
    (exact resource outcome).Names header ↔
      ∃ window, outcome = .part window ∧
        header = RangeSpec.text ⟨window.first, some window.last⟩ := by
  cases outcome with
  | whole => simp [exact, not_names_of_none (contentRange_whole resource)]
  | part window => simp [exact, names_cut_iff]
  | unsatisfiable => simp [exact, not_names_unsatisfiable]

theorem status_exact_eq_partialContent_iff (resource : Resource) (outcome : RangeOutcome) :
    (exact resource outcome).status = .partialContent ↔ ∃ window, outcome = .part window := by
  cases outcome with
  | whole => simp [exact, whole, Status.ok, Status.partialContent]
  | part window => simp [exact, cut]
  | unsatisfiable =>
      simp [exact, unsatisfiable, Status.rangeNotSatisfiable, Status.partialContent]

end Reply

/-! ## Asking again -/

namespace Catalogue

variable {catalogue : Catalogue}

/-- The reply to any path with any range header names a header exactly if it is partial, and the
reply to the header that it names is the same one, whatever the policy is then. -/
theorem reply_to_named (inMemory : catalogue.InMemory) (path : String) (range : Option String)
    (policy : PastEndPolicy) :
    ∃ reply, catalogue.reply path range policy = .ok reply ∧
      (reply.status = .partialContent ↔ ∃ header, reply.Names header) ∧
      ∀ header, reply.Names header →
        ∀ other, catalogue.reply path (some header) other = .ok reply := by
  rcases catalogue.unregistered_or_firstUnder path with unregistered | ⟨resource, first⟩
  · have noRange : (Reply.notFound path).value? "Content-Range" = none := by cbv
    have namesNone := Reply.not_names_of_none noRange
    refine ⟨_, reply_of_unregistered unregistered range policy, ?_, ?_⟩
    · exact iff_of_false (by decide : Status.notFound ≠ .partialContent) (by simpa using namesNone)
    · intro header names
      exact absurd names (namesNone header)
  · rcases RangeOutcome.ofHeader_within range resource.size policy with ⟨outcome, isRead, within⟩
    refine ⟨_, reply_of_firstUnder inMemory first isRead, ?_, ?_⟩
    · simp only [Reply.status_exact_eq_partialContent_iff, Reply.names_exact_iff]
      constructor
      · rintro ⟨window, isPart⟩
        exact ⟨_, window, isPart, rfl⟩
      · rintro ⟨_, window, isPart, -⟩
        exact ⟨window, isPart⟩
    · intro header names other
      rcases (Reply.names_exact_iff resource outcome header).mp names with ⟨window, rfl, rfl⟩
      rw [reply_of_spells inMemory first (RangeSpec.spells_text _) other,
        window.exactOutcome_of_within within other]

/-- Ten bytes, asked for from an offset with zeros in front to one past all words: the reply names
the range from seven to nine. -/
theorem reply_to_named_padded :
    let catalogue : Catalogue :=
      ⟨[("/a", ⟨[0, 1, 2, 3, 4, 5, 6, 7, 8, 9], "text/plain"⟩)]⟩
    catalogue.InMemory ∧
      ∃ reply, catalogue.reply "/a" (some "bytes=007-18446744073709551616") .collapse = .ok reply ∧
        reply.status = .partialContent ∧ reply.body = [7, 8, 9] ∧ reply.Names "bytes=7-9" ∧
        ∀ other, catalogue.reply "/a" (some "bytes=7-9") other = .ok reply := by
  intro catalogue
  have inMemory : catalogue.InMemory := by decide
  rcases reply_to_named inMemory "/a" (some "bytes=007-18446744073709551616") .collapse with
    ⟨reply, replied, -, again⟩
  have evaluated :
      catalogue.reply "/a" (some "bytes=007-18446744073709551616") .collapse =
        .ok (.cut ⟨[0, 1, 2, 3, 4, 5, 6, 7, 8, 9], "text/plain"⟩ ⟨7, 9⟩) := by
    cbv
  rw [evaluated] at replied
  cases replied
  have names := (Reply.names_cut_iff ⟨[0, 1, 2, 3, 4, 5, 6, 7, 8, 9], "text/plain"⟩ ⟨7, 9⟩
    "bytes=7-9").mpr (by cbv)
  exact ⟨inMemory, _, evaluated, rfl, rfl, names, again _ names⟩

end Catalogue

end RangeServer
