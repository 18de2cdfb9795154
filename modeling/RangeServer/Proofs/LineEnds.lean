import Mathlib
import RangeServer.AccessLog.Format
import RangeServer.Proofs.Words

/-!
# Lines without line ends in them

Every form of access log line is free of line ends as long as the texts are that go into it. JSON
escapes whatever control characters stand in a text, so there not even that is needed. A pattern is
expanded variable after variable, and what was put in for one variable may be replaced again for the
next; still each character of the outcome was in the pattern or is in the value of some variable.
-/

namespace RangeServer

/-! ## JSON -/

/-- Whether no control characters stand in a text. -/
def IsShown (text : List Char) : Prop := ∀ c ∈ text, 0x20 ≤ c.toNat

instance (text : List Char) : Decidable (IsShown text) :=
  decidable_of_iff (text.all fun c => decide (0x20 ≤ c.toNat)) (by simp [IsShown])

theorem isShown_cons {c : Char} {text : List Char} :
    IsShown (c :: text) ↔ 0x20 ≤ c.toNat ∧ IsShown text :=
  List.forall_mem_cons

theorem isShown_append {text rest : List Char} :
    IsShown (text ++ rest) ↔ IsShown text ∧ IsShown rest :=
  List.forall_mem_append

theorem IsWord.isShown {text : List Char} (isWord : IsWord text) : IsShown text := by
  intro c mem
  have high := isWord c mem
  omega

theorem IsShown.newline_not_mem {text : List Char} (isShown : IsShown text) : '\n' ∉ text := by
  intro mem
  exact absurd (isShown '\n' mem) (by decide)

namespace Json

theorem isShown_escape (c : Char) : IsShown (escape c) := by
  unfold escape
  split_ifs
  all_goals try decide
  · have front : IsShown ['\\', 'u', '0', '0'] := by decide
    have high := (isWord_digitChar (c.toNat / 16) (by omega)).isShown
    have low := (isWord_digitChar (c.toNat % 16) (by omega)).isShown
    exact isShown_append.mpr ⟨front, isShown_append.mpr ⟨high, low⟩⟩
  · apply isShown_cons.mpr
    refine ⟨by omega, ?_⟩
    decide

theorem isShown_quote (text : String) : IsShown (quote text) := by
  apply isShown_cons.mpr
  refine ⟨by decide, isShown_append.mpr ⟨?_, by decide⟩⟩
  intro c mem
  rcases List.mem_flatMap.mp mem with ⟨source, -, escaped⟩
  exact isShown_escape source c escaped

theorem isShown_printFields {fields : List (String × Json)}
    (values : ∀ field ∈ fields, IsShown (print field.2)) : IsShown (printFields fields) := by
  induction fields with
  | nil => simp [IsShown, printFields]
  | cons field rest ih =>
      rcases field with ⟨name, value⟩
      rcases List.forall_mem_cons.mp values with ⟨valueShown, restShown⟩
      have comma : 0x20 ≤ ','.toNat := by decide
      have colon : 0x20 ≤ ':'.toNat := by decide
      cases rest with
      | nil =>
          simp only [printFields, isShown_append, isShown_cons]
          exact ⟨isShown_quote name, colon, valueShown⟩
      | cons next others =>
          simp only [printFields, isShown_append, isShown_cons]
          exact ⟨isShown_quote name, colon, valueShown, comma, ih restShown⟩

theorem isShown_string (text : String) : IsShown (print (.string text)) := isShown_quote text

theorem isShown_ofNat (number : Nat) : IsShown (print (ofNat number)) := by
  simpa [ofNat, print, numeralText] using (Decimal.isWord_digits number).isShown

theorem isShown_ofOption (text : Option String) : IsShown (print (ofOption text)) := by
  cases text with
  | none => decide
  | some text => exact isShown_quote text

end Json

theorem AccessEntry.isShown_json (entry : AccessEntry) : IsShown entry.toJson.toText.toList := by
  have fields : ∀ field ∈ ([("body_bytes", .ofNat entry.bodySize),
      ("http_version", .string entry.version), ("method", .string entry.method),
      ("path", .string entry.path), ("query", .ofOption entry.query),
      ("range", .ofOption entry.range), ("referer", .ofOption entry.referer),
      ("remote_addr", .string entry.remoteAddress), ("request_time_us", .ofNat entry.microseconds),
      ("status", .ofNat entry.status), ("time", .string entry.time.internetText),
      ("user_agent", .ofOption entry.userAgent)] : List (String × Json)),
        IsShown (Json.print field.2) := by
    simp [Json.isShown_ofNat, Json.isShown_string, Json.isShown_ofOption]
  simp only [toJson, Json.toText, Json.print, String.toList_ofList, isShown_cons, isShown_append]
  exact ⟨by decide, Json.isShown_printFields fields, by decide⟩

/-! ## Patterns -/

namespace LogPattern

/-- Nothing comes into an expanded pattern but from the pattern and from the values. -/
theorem mem_of_mem_expand {entry : AccessEntry} {pattern : List Char} {c : Char}
    (mem : c ∈ expand entry pattern) :
    c ∈ pattern ∨ ∃ slot : LogVariable, c ∈ (slot.value entry).toList := by
  unfold expand at mem
  generalize LogVariable.order = slots at mem
  induction slots generalizing pattern with
  | nil => exact Or.inl mem
  | cons slot rest ih =>
      rcases ih mem with inReplaced | inValue
      · rcases Replace.mem_of_mem_go inReplaced with inValue | inPattern
        · exact Or.inr ⟨slot, inValue⟩
        · exact Or.inl inPattern
      · exact Or.inr inValue

end LogPattern

/-! ## Entries -/

namespace AccessEntry

/-- Whether no line end stands in any of the texts that an entry gives. -/
def OnOneLine (entry : AccessEntry) : Prop :=
  ∀ slot : LogVariable, '\n' ∉ (slot.value entry).toList

variable {entry : AccessEntry}

theorem OnOneLine.newline_not_mem_commonLine (onOneLine : entry.OnOneLine) :
    '\n' ∉ entry.commonLine.toList := by
  have address := onOneLine .remoteAddress
  have time := onOneLine .localTime
  have request := onOneLine .requestLine
  have status := onOneLine .status
  have size := onOneLine .bodySize
  simp only [LogVariable.value, Decimal.toList_text] at address time request status size
  simp [commonLine, address, time, request, status, size]

theorem OnOneLine.newline_not_mem_combinedLine (onOneLine : entry.OnOneLine) :
    '\n' ∉ entry.combinedLine.toList := by
  have common := onOneLine.newline_not_mem_commonLine
  have referer := onOneLine .referer
  have agent := onOneLine .userAgent
  simp only [LogVariable.value] at referer agent
  simp [combinedLine, common, referer, agent]

theorem OnOneLine.newline_not_mem_pattern (onOneLine : entry.OnOneLine) {text : String}
    (oneLine : '\n' ∉ text.toList) : '\n' ∉ (entry.line (.pattern text)).toList := by
  simp only [line, String.toList_ofList]
  intro mem
  rcases LogPattern.mem_of_mem_expand mem with inPattern | ⟨slot, inValue⟩
  · exact oneLine inPattern
  · exact onOneLine slot inValue

/-- No form of line has a line end in it if neither its name nor the entry has one. -/
theorem OnOneLine.newline_not_mem_line (onOneLine : entry.OnOneLine) {name : String}
    (oneLine : '\n' ∉ name.toList) : '\n' ∉ (entry.line (.ofName name)).toList := by
  unfold LogFormat.ofName
  split
  · exact onOneLine.newline_not_mem_combinedLine
  · exact onOneLine.newline_not_mem_commonLine
  · exact entry.isShown_json.newline_not_mem
  · exact onOneLine.newline_not_mem_pattern oneLine

end AccessEntry

end RangeServer
