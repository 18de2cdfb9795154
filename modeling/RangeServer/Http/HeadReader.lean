import RangeServer.Http.Request
import RangeServer.Http.Status

/-!
# Reading request heads

A request head is read from the bytes that have come so far. Either it is complete, and the bytes
behind it are given back, or more bytes are needed, or the bytes can never become a head. Lines end
in a line feed with or without a carriage return before it, and empty lines before the head are
skipped. What has been decided stays decided when more bytes come.
-/

namespace RangeServer

/-- Why bytes can never become the head of a request that is answered. -/
inductive HeadFault where
  | method
  | target
  | targetTooLong
  | version
  | header
  | tooLarge
  | contentLength
  | transferCoding
  | unexpectedTransferCoding
  deriving DecidableEq, Repr

namespace HeadFault

/-- The name of a fault in the log. -/
def title : HeadFault → String
  | .method => "Method"
  | .target => "Uri"
  | .targetTooLong => "UriTooLong"
  | .version => "Version"
  | .header => "Header(Token)"
  | .tooLarge => "TooLarge"
  | .contentLength => "Header(ContentLengthInvalid)"
  | .transferCoding => "Header(TransferEncodingInvalid)"
  | .unexpectedTransferCoding => "Header(TransferEncodingUnexpected)"

/-- The status of the answer to a fault. -/
def status : HeadFault → Status
  | .tooLarge => .headerFieldsTooLarge
  | .targetTooLong => .targetTooLong
  | _ => .badRequest

end HeadFault

/-- How far a part of a head can be read from the bytes that have come. -/
inductive HeadRead (Value : Type) where
  | incomplete
  | refused (fault : HeadFault)
  | complete (value : Value) (rest : Bytes)
  deriving DecidableEq, Repr

namespace HeadRead

/-- Reads a part and then what depends on it. -/
def andThen {First Second : Type} (first : HeadRead First)
    (next : First → Bytes → HeadRead Second) : HeadRead Second :=
  match first with
  | .incomplete => .incomplete
  | .refused fault => .refused fault
  | .complete value rest => next value rest

end HeadRead

/-- A request head as it is written: three parts of a line, and headers. -/
structure WrittenHead where
  method : Bytes
  target : Bytes
  version : HttpVersion
  headers : List (Bytes × Bytes)
  deriving DecidableEq, Repr

namespace HeadReader

/-- The carriage return. -/
def carriageReturn : UInt8 := 13

/-- The line feed. -/
def lineFeed : UInt8 := 10

/-- The blank. -/
def blank : UInt8 := 32

/-- How many headers a request may have. -/
def maxHeaders : Nat := 100

/-- The longest target that is looked at. -/
def maxTarget : Nat := 65534

/-- How many bytes may come without completing a head. -/
def maxPending : Nat := 8192 + 4096 * 100

/-- Whether a byte may stand in a token. -/
def isTokenByte (byte : UInt8) : Bool :=
  byte < 0x80 && Ascii.isTokenChar (Char.ofNat byte.toNat)

/-- Whether a byte may stand in a target as it is written. -/
def isTargetByte (byte : UInt8) : Bool := 0x21 ≤ byte && byte != 0x7F

/-- Whether a byte is a blank or a tab. -/
def isSpaceByte (byte : UInt8) : Bool := byte == 0x20 || byte == 0x09

/-- Skips empty lines. -/
def emptyLines : Bytes → HeadRead Unit
  | [] => .incomplete
  | byte :: rest =>
    if byte = lineFeed then emptyLines rest
    else if byte = carriageReturn then
      match rest with
      | [] => .incomplete
      | second :: rest => if second = lineFeed then emptyLines rest else .refused .header
    else .complete () (byte :: rest)

/-- Takes a run of bytes of a class and the blank behind it. -/
def word (isWordByte : UInt8 → Bool) (fault : HeadFault) (bytes : Bytes) : HeadRead Bytes :=
  let run := bytes.takeWhile isWordByte
  match bytes.dropWhile isWordByte with
  | [] => .incomplete
  | byte :: rest =>
    if byte = blank ∧ run ≠ [] then .complete run rest else .refused fault

/-- Takes the end of a line. -/
def lineEnd : Bytes → HeadRead Unit
  | [] => .incomplete
  | byte :: rest =>
    if byte = lineFeed then .complete () rest
    else if byte = carriageReturn then
      match rest with
      | [] => .incomplete
      | second :: rest => if second = lineFeed then .complete () rest else .refused .header
    else .refused .header

/-- The text before the last digit of a version. -/
def versionLead : Bytes := Utf8.encode "HTTP/1."

/-- Takes a version. -/
def version (bytes : Bytes) : HeadRead HttpVersion :=
  if bytes.length < 8 then
    if bytes.take 7 = versionLead.take bytes.length then .incomplete else .refused .version
  else if bytes.take 8 = versionLead ++ [0x31] then .complete .v11 (bytes.drop 8)
  else if bytes.take 8 = versionLead ++ [0x30] then .complete .v10 (bytes.drop 8)
  else .refused .version

/-- Bytes without blanks and tabs around them. -/
def trim (bytes : Bytes) : Bytes :=
  ((bytes.dropWhile isSpaceByte).reverse.dropWhile isSpaceByte).reverse

/-- Takes the name of a header and the colon behind it. -/
def headerName (bytes : Bytes) : HeadRead Bytes :=
  let run := bytes.takeWhile isTokenByte
  match bytes.dropWhile isTokenByte with
  | [] => .incomplete
  | byte :: rest =>
    if byte = 0x3A ∧ run ≠ [] then .complete run rest else .refused .header

/-- Takes the value of a header and the end of its line. -/
def headerValue (bytes : Bytes) : HeadRead Bytes :=
  let run := bytes.takeWhile Ascii.isFieldByte
  (lineEnd (bytes.dropWhile Ascii.isFieldByte)).andThen fun _ rest => .complete (trim run) rest

/-- Takes headers up to the empty line behind them, of which so many are still allowed. -/
def headers : Nat → Bytes → HeadRead (List (Bytes × Bytes))
  | _, [] => .incomplete
  | remaining, byte :: bytes =>
    if byte = carriageReturn ∨ byte = lineFeed then
      (lineEnd (byte :: bytes)).andThen fun _ rest => .complete [] rest
    else if !isTokenByte byte then .refused .header
    else match remaining with
      | 0 => .refused .tooLarge
      | remaining + 1 =>
        (headerName (byte :: bytes)).andThen fun name rest =>
          (headerValue rest).andThen fun value rest =>
            (headers remaining rest).andThen fun more rest =>
              .complete ((name, value) :: more) rest

/-- Takes a target, which has to be UTF-8. -/
def target (bytes : Bytes) : HeadRead Bytes :=
  (word isTargetByte .target bytes).andThen fun target rest =>
    if (Utf8.decode? target).isSome then .complete target rest else .refused .target

/-- Takes a request head. -/
def written (bytes : Bytes) : HeadRead WrittenHead :=
  (emptyLines bytes).andThen fun _ rest =>
  (word isTokenByte .method rest).andThen fun method rest =>
  (target rest).andThen fun target rest =>
  (version rest).andThen fun version rest =>
  (lineEnd rest).andThen fun _ rest =>
  (headers maxHeaders rest).andThen fun headers rest =>
  .complete ⟨method, target, version, headers⟩ rest

end HeadReader

end RangeServer
