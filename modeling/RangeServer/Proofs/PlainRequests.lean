import RangeServer.Proofs.HeadReading
import RangeServer.Text.Runs

/-!
# Plain requests as they are written

A plain request has no body and asks for nothing out of the ordinary: no tunnel, no upgrade, no
leave to go on. `PlainRequest` is the text of one, written as the grammar of the protocol has it,
within the limits of the transport on headers and on bytes. Its bytes are read as the request that
it spells, whatever comes behind them, and no proper beginning of them is read as anything.
-/

namespace RangeServer

open HeadReader

/-- The end of a line. -/
def lineBreak : Bytes := [carriageReturn, lineFeed]

/-- The line of a header: its name, a colon, and its value with blanks around it. -/
structure HeaderLine where
  name : Bytes
  before : Bytes
  value : Bytes
  behind : Bytes
  name_ne_nil : name ≠ []
  isToken : name.all isTokenByte = true
  blanksBefore : before.all isSpaceByte = true
  blanksBehind : behind.all isSpaceByte = true
  isField : value.all Ascii.isFieldByte = true
  startsTight : ∀ byte ∈ value.head?, isSpaceByte byte = false
  endsTight : ∀ byte ∈ value.getLast?, isSpaceByte byte = false

namespace HeaderLine

/-- The bytes of a header, the end of the line included. -/
def bytes (line : HeaderLine) : Bytes :=
  line.name ++ 0x3A :: (line.before ++ line.value ++ line.behind ++ lineBreak)

/-- The header that a line spells. -/
def header (line : HeaderLine) : Bytes × Bytes := (line.name, line.value)

end HeaderLine

/-- The text of a request without a body. -/
structure RequestText where
  method : Bytes
  target : Bytes
  lines : List HeaderLine

namespace RequestText

/-- The bytes of a request. -/
def bytes (text : RequestText) : Bytes :=
  text.method ++ blank :: (text.target ++ blank :: (Utf8.encode "HTTP/1.1" ++ lineBreak ++
    text.lines.flatMap HeaderLine.bytes ++ lineBreak))

/-- The head of a request. -/
def head (text : RequestText) : WrittenHead :=
  ⟨text.method, text.target, .v11, text.lines.map HeaderLine.header⟩

end RequestText

/-- A plain request with the text that spells it. -/
structure PlainRequest extends RequestText where
  request : Request
  isMade : Request.make (WrittenHead.tokenText method) target .v11
    (lines.map fun line => (WrittenHead.tokenText line.name, line.value)) = .ok request
  method_ne_nil : method ≠ []
  isToken : method.all isTokenByte = true
  isVisible : target.all isTargetByte = true
  isText : (Utf8.decode? target).isSome = true
  fewLines : lines.length ≤ maxHeaders
  fits : toRequestText.bytes.length ≤ maxPending
  noCoding : request.headers.values "Transfer-Encoding" = []
  noLength : ∀ value ∈ request.headers.values "Content-Length", Framing.length? value = some 0
  noTunnel : request.method.name ≠ "CONNECT"
  noUpgrade : request.headers.values "Upgrade" = []
  noExpectation : request.headers.values "Expect" = []

namespace HeadReader

/-! ## Reading what is written -/

theorem word_append {isWordByte : UInt8 → Bool} {run : Bytes} (run_ne_nil : run ≠ [])
    (all : run.all isWordByte = true) (blankOutside : isWordByte blank = false)
    (fault : HeadFault) (rest : Bytes) :
    word isWordByte fault (run ++ blank :: rest) = .complete run rest := by
  rcases span_append_cons (List.all_eq_true.mp all) blankOutside rest with ⟨taken, dropped⟩
  simp [word, taken, dropped, run_ne_nil]

theorem lineEnd_append (rest : Bytes) : lineEnd (lineBreak ++ rest) = .complete () rest := rfl

theorem version_append (rest : Bytes) :
    version (Utf8.encode "HTTP/1.1" ++ rest) = .complete .v11 rest := by
  have spelled : Utf8.encode "HTTP/1.1" = versionLead ++ [0x31] := by decide
  have length : (versionLead ++ [0x31] : Bytes).length = 8 := by
    rw [List.length_append, length_versionLead]
    rfl
  have enough : ¬(versionLead ++ [0x31] ++ rest).length < 8 := by
    rw [List.length_append, length]
    omega
  rw [spelled, version, if_neg enough, List.take_append_of_le_length (Nat.le_of_eq length.symm),
    List.take_of_length_le (Nat.le_of_eq length), if_pos rfl,
    List.drop_append_of_le_length (Nat.le_of_eq length.symm),
    List.drop_of_length_le (Nat.le_of_eq length), List.nil_append]

/-- The first byte of a token belongs to no end of a line. -/
theorem not_lineByte_of_isTokenByte {byte : UInt8} (isToken : isTokenByte byte = true) :
    ¬(byte = carriageReturn ∨ byte = lineFeed) := by
  rintro (rfl | rfl)
  · exact absurd isToken (by decide)
  · exact absurd isToken (by decide)

theorem emptyLines_append {run : Bytes} (run_ne_nil : run ≠ []) (all : run.all isTokenByte = true)
    (rest : Bytes) : emptyLines (run ++ rest) = .complete () (run ++ rest) := by
  cases run with
  | nil => exact absurd rfl run_ne_nil
  | cons byte others =>
      rw [List.all_cons, Bool.and_eq_true] at all
      have notLineByte := not_or.mp (not_lineByte_of_isTokenByte all.1)
      exact emptyLines_of_other notLineByte.2 notLineByte.1 _

theorem headerName_append {run : Bytes} (run_ne_nil : run ≠ []) (all : run.all isTokenByte = true)
    (rest : Bytes) : headerName (run ++ 0x3A :: rest) = .complete run rest := by
  have colon : isTokenByte 0x3A = false := by decide
  rcases span_append_cons (List.all_eq_true.mp all) colon rest with ⟨taken, dropped⟩
  simp [headerName, taken, dropped, run_ne_nil]

/-- Blanks around a value that itself neither starts nor ends with one are taken away. -/
theorem trim_of_tight {before value behind : Bytes} (blanksBefore : before.all isSpaceByte = true)
    (blanksBehind : behind.all isSpaceByte = true)
    (startsTight : ∀ byte ∈ value.head?, isSpaceByte byte = false)
    (endsTight : ∀ byte ∈ value.getLast?, isSpaceByte byte = false) :
    trim (before ++ value ++ behind) = value := by
  rw [List.all_eq_true] at blanksBefore blanksBehind
  rw [trim, List.append_assoc, List.dropWhile_append_of_pos blanksBefore]
  by_cases none : value = []
  · rw [none, List.nil_append, List.dropWhile_eq_nil_iff.mpr blanksBehind]
    rfl
  · have starts : ∀ byte ∈ (value ++ behind).head?, isSpaceByte byte = false := by
      rwa [List.head?_append, List.head?_eq_some_head none, Option.some_or,
        ← List.head?_eq_some_head none]
    have ends : ∀ byte ∈ value.reverse.head?, isSpaceByte byte = false := by
      rwa [List.head?_reverse]
    have blanksReversed : ∀ byte ∈ behind.reverse, isSpaceByte byte = true := by
      simpa using blanksBehind
    rw [dropWhile_of_stops starts, List.reverse_append,
      List.dropWhile_append_of_pos blanksReversed, dropWhile_of_stops ends, List.reverse_reverse]

theorem isFieldByte_of_isSpaceByte {byte : UInt8} (isSpace : isSpaceByte byte = true) :
    Ascii.isFieldByte byte = true := by
  simp only [isSpaceByte, Bool.or_eq_true, beq_iff_eq] at isSpace
  rcases isSpace with rfl | rfl <;> decide

theorem headerValue_append (line : HeaderLine) (rest : Bytes) :
    headerValue (line.before ++ line.value ++ line.behind ++ (lineBreak ++ rest)) =
      .complete line.value rest := by
  have areFields : (line.before ++ line.value ++ line.behind).all Ascii.isFieldByte = true := by
    have before := List.all_eq_true.mp line.blanksBefore
    have behind := List.all_eq_true.mp line.blanksBehind
    rw [List.all_append, List.all_append, line.isField, Bool.and_true, Bool.and_eq_true,
      List.all_eq_true, List.all_eq_true]
    exact ⟨fun byte mem => isFieldByte_of_isSpaceByte (before byte mem),
      fun byte mem => isFieldByte_of_isSpaceByte (behind byte mem)⟩
  have ended : Ascii.isFieldByte carriageReturn = false := by decide
  rcases span_append_cons (List.all_eq_true.mp areFields) ended (lineFeed :: rest) with
    ⟨taken, dropped⟩
  have same : lineBreak ++ rest = carriageReturn :: lineFeed :: rest := rfl
  rw [same, headerValue, taken, dropped, ← same, lineEnd_append, HeadRead.andThen,
    trim_of_tight line.blanksBefore line.blanksBehind line.startsTight line.endsTight]

theorem headers_name_append {run : Bytes} (run_ne_nil : run ≠ [])
    (all : run.all isTokenByte = true) (remaining : Nat) (rest : Bytes) :
    headers (remaining + 1) (run ++ rest) =
      (headerName (run ++ rest)).andThen fun name rest =>
        (headerValue rest).andThen fun value rest =>
          (headers remaining rest).andThen fun more rest =>
            .complete ((name, value) :: more) rest := by
  cases run with
  | nil => exact absurd rfl run_ne_nil
  | cons byte others =>
      rw [List.all_cons, Bool.and_eq_true] at all
      exact headers_of_name (not_lineByte_of_isTokenByte all.1) all.1 remaining _

theorem headers_append {lines : List HeaderLine} {remaining : Nat}
    (few : lines.length ≤ remaining) (rest : Bytes) :
    headers remaining (lines.flatMap HeaderLine.bytes ++ (lineBreak ++ rest)) =
      .complete (lines.map HeaderLine.header) rest := by
  induction lines generalizing remaining with
  | nil =>
      have same : lineBreak ++ rest = carriageReturn :: lineFeed :: rest := rfl
      rw [List.flatMap_nil, List.nil_append, same, headers_of_end (Or.inl rfl), ← same,
        lineEnd_append]
      rfl
  | cons line others ih =>
      cases remaining with
      | zero => cases few
      | succ remaining =>
          rw [List.flatMap_cons, HeaderLine.bytes]
          simp only [List.append_assoc, List.cons_append]
          rw [headers_name_append line.name_ne_nil line.isToken,
            headerName_append line.name_ne_nil line.isToken]
          have value := headerValue_append line
            (others.flatMap HeaderLine.bytes ++ (lineBreak ++ rest))
          simp only [List.append_assoc] at value
          simp only [HeadRead.andThen, value, ih (Nat.le_of_succ_le_succ few)]
          rfl

theorem target_append {bytes : Bytes} (bytes_ne_nil : bytes ≠ [])
    (isVisible : bytes.all isTargetByte = true) (isText : (Utf8.decode? bytes).isSome = true)
    (rest : Bytes) : target (bytes ++ blank :: rest) = .complete bytes rest := by
  rw [target, word_append bytes_ne_nil isVisible (by decide)]
  simp [HeadRead.andThen, isText]

end HeadReader

namespace PlainRequest

variable (plain : PlainRequest)

/-! ## Reading a plain request -/

/-- The parts of the request are made from the parts of its text. -/
theorem exists_parts : ∃ method target headers,
    Method.ofName? (WrittenHead.tokenText plain.method) = some method ∧
      RequestTarget.read plain.target = .ok target ∧
      Headers.ofList isHeaderBytes (plain.lines.map fun line =>
        (WrittenHead.tokenText line.name, line.value)) = .ok headers ∧
      plain.request = ⟨method, target, .v11, headers⟩ := by
  have isMade := plain.isMade
  unfold Request.make at isMade
  cases named : Method.ofName? (WrittenHead.tokenText plain.method) with
  | none =>
      rw [named] at isMade
      cases isMade
  | some method =>
      rw [named] at isMade
      cases aimed : RequestTarget.read plain.target with
      | error fault =>
          rw [aimed] at isMade
          cases isMade
      | ok target =>
          rw [aimed] at isMade
          cases gathered : Headers.ofList isHeaderBytes (plain.lines.map fun line =>
              (WrittenHead.tokenText line.name, line.value)) with
          | error fault =>
              rw [gathered] at isMade
              cases isMade
          | ok headers =>
              rw [gathered] at isMade
              exact ⟨method, target, headers, rfl, rfl, rfl, (Except.ok.inj isMade).symm⟩

theorem target_within : plain.target ≠ [] ∧ plain.target.length ≤ maxTarget := by
  rcases plain.exists_parts with ⟨-, target, -, -, aimed, -, -⟩
  unfold RequestTarget.read at aimed
  constructor
  · intro none
    rw [none] at aimed
    cases aimed
  · by_contra tooLong
    have isLonger : TargetReader.maxLength < plain.target.length := Nat.lt_of_not_le tooLong
    rw [if_pos isLonger] at aimed
    cases aimed

theorem bytes_ne_nil : plain.bytes ≠ [] := by
  simp [RequestText.bytes]

theorem written_append (rest : Bytes) :
    written (plain.bytes ++ rest) = .complete plain.head rest := by
  simp only [RequestText.bytes, List.append_assoc, List.cons_append, written, HeadRead.andThen,
    emptyLines_append plain.method_ne_nil plain.isToken,
    word_append plain.method_ne_nil plain.isToken (by decide : isTokenByte blank = false),
    target_append plain.target_within.1 plain.isVisible plain.isText, version_append,
    lineEnd_append, headers_append plain.fewLines]
  rfl

theorem request_head : plain.head.request = .ok plain.request := by
  rcases plain.exists_parts with ⟨method, target, headers, named, aimed, gathered, request⟩
  have lines : plain.head.headers.map (fun header => (WrittenHead.tokenText header.1, header.2)) =
      plain.lines.map fun line => (WrittenHead.tokenText line.name, line.value) :=
    List.map_map
  rw [request]
  simp only [WrittenHead.request, lines, gathered]
  simp only [RequestText.head, named, aimed]
  rfl

theorem body_request : Framing.body plain.request = .ok (.bytes 0) := by
  have lengths : Framing.lengthOf (plain.request.headers.values "Content-Length") = .ok 0 := by
    have noLength := plain.noLength
    cases values : plain.request.headers.values "Content-Length" with
    | nil => rfl
    | cons value others =>
        rw [values] at noLength
        have same : others.all (Framing.length? · == some 0) = true := by
          rw [List.all_eq_true]
          intro other mem
          simp [noLength other (List.mem_cons_of_mem value mem)]
        simp [Framing.lengthOf, noLength value List.mem_cons_self, same]
  rw [Framing.body, plain.noCoding]
  simp only [lengths]
  rfl

theorem framed_head : plain.head.framed =
    .ok ⟨plain.request, .bytes 0, Framing.staysOpen plain.request⟩ := by
  have fits : ¬maxTarget < plain.head.target.length := Nat.not_lt.mpr plain.target_within.2
  rw [WrittenHead.framed, if_neg fits, request_head]
  simp only [bind, Except.bind, body_request]
  rfl

/-- A plain request is read from its bytes, whatever comes behind them. -/
theorem read_append (rest : Bytes) : FramedRequest.read (plain.bytes ++ rest) =
    .complete ⟨plain.request, .bytes 0, Framing.staysOpen plain.request⟩ rest := by
  rw [FramedRequest.read, written_append]
  simp only [framed_head]

/-- No proper beginning of a plain request is read as anything. -/
theorem read_of_begun {part missing : Bytes} (begun : part ++ missing = plain.bytes)
    (missing_ne_nil : missing ≠ []) : FramedRequest.read part = .incomplete := by
  have whole := plain.written_append []
  rw [List.append_nil, ← begun] at whole
  have undecided : written part = .incomplete := by
    by_contra decided
    have extended := stable_written part missing decided
    rw [whole] at extended
    cases read : written part with
    | incomplete => exact decided read
    | refused fault =>
        rw [read] at extended
        cases extended
    | complete head rest =>
        rw [read, HeadRead.extend_complete] at extended
        injection extended with _ nothing
        exact missing_ne_nil (List.append_eq_nil_iff.mp nothing.symm).2
  have short : ¬maxPending ≤ part.length := by
    have fits := plain.fits
    have positive := List.length_pos_iff.mpr missing_ne_nil
    rw [← begun, List.length_append] at fits
    omega
  rw [FramedRequest.read, undecided]
  exact if_neg short

end PlainRequest

end RangeServer
