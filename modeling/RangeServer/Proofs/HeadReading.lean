import Mathlib.Data.List.TakeWhile
import RangeServer.Http.Framing

/-!
# Reading heads that come in portions

The bytes of a head may come in any portions, and it is read anew from all bytes so far. That does
no harm, for what has been read or refused stays so when more bytes come: `HeadReader.Stable` says
that of one reader, and holds of each of them and of readers in a row. So a proper beginning of
bytes that spell a head, and no more than the head, can only be incomplete.
-/

namespace RangeServer

namespace HeadRead

variable {Value : Type}

/-- What is read when more bytes come behind those that decided it. -/
def extend (more : Bytes) : HeadRead Value → HeadRead Value
  | .complete value rest => .complete value (rest ++ more)
  | read => read

@[simp]
theorem extend_complete (more rest : Bytes) (value : Value) :
    (complete value rest).extend more = .complete value (rest ++ more) := rfl

@[simp]
theorem extend_refused (more : Bytes) (fault : HeadFault) :
    (refused fault : HeadRead Value).extend more = .refused fault := rfl

end HeadRead

namespace HeadReader

variable {First Second : Type}

/-- Whether what a reader has decided stays decided when more bytes come. -/
def Stable (reader : Bytes → HeadRead First) : Prop :=
  ∀ bytes more, reader bytes ≠ .incomplete → reader (bytes ++ more) = (reader bytes).extend more

/-- Readers in a row are stable if each of them is. -/
theorem Stable.andThen {reader : Bytes → HeadRead First} (stable : Stable reader)
    {next : First → Bytes → HeadRead Second} (nextStable : ∀ value, Stable (next value)) :
    Stable fun bytes => (reader bytes).andThen next := by
  intro bytes more decided
  cases read : reader bytes with
  | incomplete => simp [read, HeadRead.andThen] at decided
  | refused fault =>
      have readMore := stable bytes more (by simp [read])
      simp [readMore, read, HeadRead.andThen]
  | complete value rest =>
      have readMore := stable bytes more (by simp [read])
      simp only [read, HeadRead.andThen] at decided
      simpa [readMore, read, HeadRead.andThen] using nextStable value rest more decided

/-! ## Runs of bytes -/

theorem takeWhile_append_of_dropWhile {isIn : UInt8 → Bool} {bytes rest : Bytes} {byte : UInt8}
    (ends : bytes.dropWhile isIn = byte :: rest) (more : Bytes) :
    (bytes ++ more).takeWhile isIn = bytes.takeWhile isIn ∧
      (bytes ++ more).dropWhile isIn = byte :: (rest ++ more) := by
  induction bytes with
  | nil => cases ends
  | cons first others ih =>
      by_cases inside : isIn first = true
      · simp only [List.dropWhile_cons, inside, if_true] at ends
        simpa [inside] using ih ends
      · simp only [List.dropWhile_cons, inside] at ends
        cases ends
        simp [inside]

/-! ## Stability of the readers -/

theorem emptyLines_lineFeed (rest : Bytes) : emptyLines (lineFeed :: rest) = emptyLines rest := by
  rw [emptyLines.eq_def]
  rfl

theorem emptyLines_of_other {byte : UInt8} (notFeed : byte ≠ lineFeed)
    (notReturn : byte ≠ carriageReturn) (rest : Bytes) :
    emptyLines (byte :: rest) = .complete () (byte :: rest) := by
  rw [emptyLines.eq_def]
  simp [notFeed, notReturn]

theorem stable_emptyLines : Stable emptyLines := by
  intro bytes more decided
  fun_induction emptyLines bytes with
  | case1 => exact absurd rfl decided
  | case2 rest ih => simpa [emptyLines_lineFeed] using ih decided
  | case3 notFeed => exact absurd rfl decided
  | case4 rest notFeed ih => simpa [emptyLines, notFeed] using ih decided
  | case5 second rest secondNotFeed notFeed => simp [emptyLines, secondNotFeed, notFeed]
  | case6 byte rest notFeed notReturn => exact emptyLines_of_other notFeed notReturn _

theorem stable_word (isWordByte : UInt8 → Bool) (fault : HeadFault) :
    Stable (word isWordByte fault) := by
  intro bytes more decided
  cases ends : bytes.dropWhile isWordByte with
  | nil => simp [word, ends] at decided
  | cons byte rest =>
      rcases takeWhile_append_of_dropWhile ends more with ⟨taken, dropped⟩
      simp only [word, ends, taken, dropped]
      split <;> rfl

theorem stable_lineEnd : Stable lineEnd := by
  intro bytes more decided
  fun_cases lineEnd bytes with
  | case1 => exact absurd rfl decided
  | case2 rest => simp [lineEnd]
  | case3 notFeed => exact absurd rfl decided
  | case4 rest notFeed => simp [lineEnd, notFeed]
  | case5 second rest secondNotFeed notFeed => simp [lineEnd, secondNotFeed, notFeed]
  | case6 byte rest notFeed notReturn => simp [lineEnd, notFeed, notReturn]

theorem eq_take_of_take_append {bytes more text : Bytes} {count : Nat}
    (taken : (bytes ++ more).take count = text) (fits : bytes.length ≤ count) :
    bytes = text.take bytes.length := by
  rw [← taken, List.take_take, Nat.min_eq_left fits, List.take_left]

theorem length_versionLead : versionLead.length = 7 := by decide

theorem stable_version : Stable version := by
  intro bytes more decided
  by_cases short : bytes.length < 8
  · have fits : bytes.length ≤ 7 := by omega
    have notBegun : bytes ≠ versionLead.take bytes.length := by
      intro begun
      have taken : bytes.take 7 = versionLead.take bytes.length := by
        rw [List.take_of_length_le fits]
        exact begun
      simp [version, short, taken] at decided
    -- What is longer begins with these bytes, and no version does.
    have notVersion : ∀ digit, (bytes ++ more).take 8 ≠ versionLead ++ [digit] := by
      intro digit taken
      apply notBegun
      have begun := eq_take_of_take_append taken (Nat.le_of_lt short)
      rwa [List.take_append_of_le_length (by rw [length_versionLead]; exact fits)] at begun
    have notBegunYet : ∀ length, bytes.length ≤ length →
        (bytes ++ more).take 7 ≠ versionLead.take length := by
      intro length longer taken
      apply notBegun
      have begun := eq_take_of_take_append taken fits
      rwa [List.take_take, Nat.min_eq_left longer] at begun
    have refused : version bytes = .refused .version := by
      have differ : bytes.take 7 ≠ versionLead.take bytes.length := by
        rw [List.take_of_length_le fits]
        exact notBegun
      simp [version, short, differ]
    have longer : bytes.length ≤ (bytes ++ more).length := by simp
    rw [refused, version, if_neg (notBegunYet _ longer), if_neg (notVersion 0x31),
      if_neg (notVersion 0x30), ite_self]
    rfl
  · have enough : 8 ≤ bytes.length := Nat.le_of_not_lt short
    have enoughMore : ¬(bytes ++ more).length < 8 := by
      rw [List.length_append]
      omega
    simp only [version, short, enoughMore, if_false, List.take_append_of_le_length enough,
      List.drop_append_of_le_length enough]
    split
    · rfl
    · split <;> rfl

theorem stable_headerName : Stable headerName := by
  intro bytes more decided
  cases ends : bytes.dropWhile isTokenByte with
  | nil => simp [headerName, ends] at decided
  | cons byte rest =>
      rcases takeWhile_append_of_dropWhile ends more with ⟨taken, dropped⟩
      simp only [headerName, ends, taken, dropped]
      split <;> rfl

theorem stable_complete (value : First) : Stable fun bytes => .complete value bytes := by
  intro bytes more _
  rfl

theorem stable_headerValue : Stable headerValue := by
  intro bytes more decided
  cases ends : bytes.dropWhile Ascii.isFieldByte with
  | nil => simp [headerValue, ends, lineEnd, HeadRead.andThen] at decided
  | cons byte rest =>
      rcases takeWhile_append_of_dropWhile ends more with ⟨taken, dropped⟩
      have stable := stable_lineEnd.andThen
        (fun _ => stable_complete (trim (bytes.takeWhile Ascii.isFieldByte))) (byte :: rest) more
      simp only [headerValue, ends, taken, dropped] at decided ⊢
      exact stable decided

theorem headers_of_end {byte : UInt8} (isEnd : byte = carriageReturn ∨ byte = lineFeed)
    (remaining : Nat) (rest : Bytes) :
    headers remaining (byte :: rest) =
      (lineEnd (byte :: rest)).andThen fun _ rest => .complete [] rest := by
  cases remaining <;> simp [headers, isEnd]

theorem headers_of_name {byte : UInt8} (notEnd : ¬(byte = carriageReturn ∨ byte = lineFeed))
    (isToken : isTokenByte byte = true) (remaining : Nat) (rest : Bytes) :
    headers (remaining + 1) (byte :: rest) =
      (headerName (byte :: rest)).andThen fun name rest =>
        (headerValue rest).andThen fun value rest =>
          (headers remaining rest).andThen fun more rest =>
            .complete ((name, value) :: more) rest := by
  simp [headers, notEnd, isToken]

theorem extend_headers_of_end {byte : UInt8} (isEnd : byte = carriageReturn ∨ byte = lineFeed)
    (remaining : Nat) (rest more : Bytes)
    (decided : headers remaining (byte :: rest) ≠ .incomplete) :
    headers remaining (byte :: (rest ++ more)) =
      (headers remaining (byte :: rest)).extend more := by
  rw [headers_of_end isEnd] at decided
  rw [headers_of_end isEnd, headers_of_end isEnd]
  exact stable_lineEnd.andThen (fun _ => stable_complete []) (byte :: rest) more decided

theorem stable_headers (remaining : Nat) : Stable (headers remaining) := by
  induction remaining with
  | zero =>
      intro bytes more decided
      cases bytes with
      | nil => simp [headers] at decided
      | cons byte rest =>
          by_cases isEnd : byte = carriageReturn ∨ byte = lineFeed
          · exact extend_headers_of_end isEnd 0 rest more decided
          · by_cases isToken : isTokenByte byte = true <;> simp [headers, isEnd, isToken]
  | succ remaining ih =>
      intro bytes more decided
      cases bytes with
      | nil => simp [headers] at decided
      | cons byte rest =>
          by_cases isEnd : byte = carriageReturn ∨ byte = lineFeed
          · exact extend_headers_of_end isEnd (remaining + 1) rest more decided
          · by_cases isToken : isTokenByte byte = true
            · rw [headers_of_name isEnd isToken] at decided
              rw [List.cons_append, headers_of_name isEnd isToken, headers_of_name isEnd isToken]
              refine stable_headerName.andThen (fun name => ?_) (byte :: rest) more decided
              refine stable_headerValue.andThen fun value => ?_
              exact ih.andThen fun others => stable_complete _
            · simp [headers, isEnd, isToken]

theorem stable_target : Stable target := by
  refine (stable_word isTargetByte .target).andThen fun value => ?_
  intro bytes more decided
  dsimp only
  split <;> rfl

/-- What has been decided about a head stays decided when more bytes come. -/
theorem stable_written : Stable written := by
  refine stable_emptyLines.andThen fun _ => ?_
  refine (stable_word isTokenByte .method).andThen fun method => ?_
  refine stable_target.andThen fun target => ?_
  refine stable_version.andThen fun version => ?_
  refine stable_lineEnd.andThen fun _ => ?_
  refine (stable_headers maxHeaders).andThen fun headers => ?_
  exact stable_complete _

end HeadReader

end RangeServer
