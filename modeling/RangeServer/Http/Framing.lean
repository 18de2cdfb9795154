import RangeServer.Http.HeadReader
import RangeServer.Number.Powers
import RangeServer.Text.Blank

/-!
# Framing of requests

What the headers of a request say about its place on a connection: how many bytes of a body follow
the head, and whether the connection stays open for a further request. A connection stays open
unless a request of the newer version says `close`; one of the older version has to say
`keep-alive`.
-/

namespace RangeServer

/-- What follows the head of a request. -/
inductive BodyFraming where
  /-- So many bytes. -/
  | bytes (length : Nat)
  /-- Chunks that tell their own lengths. -/
  | chunks
  deriving DecidableEq, Repr

/-- A request with its place on a connection. -/
structure FramedRequest where
  request : Request
  body : BodyFraming
  staysOpen : Bool
  deriving DecidableEq

namespace Framing

/-- The largest length that a body may announce. -/
def maxBody : Nat := Word.count64 - 3

/-- The parts of a text between its commas, without blanks around them. -/
def listItems (text : String) : List String := (text.splitOn ",").map Blank.trim

/-- Whether a header value lists a word, whatever its case. -/
def lists (word : String) (value : Bytes) : Bool :=
  match Ascii.visibleText? value with
  | some text => (listItems text).any (Ascii.sameLetters · word)
  | none => false

/-- Whether the last coding that a header value lists is that of chunks. -/
def endsInChunks (value : Bytes) : Bool :=
  match Ascii.visibleText? value with
  | some text => ((listItems text).getLast?.map (Ascii.sameLetters · "chunked")).getD false
  | none => false

/-- Whether the connection stays open, given what holds before a header value is looked at. -/
def staysOpenAfter (wasOpen : Bool) (value : Bytes) : Bool :=
  if wasOpen then !lists "close" value else lists "keep-alive" value

/-- Whether a request leaves its connection open. -/
def staysOpen (request : Request) : Bool :=
  (request.headers.values "Connection").foldl staysOpenAfter (request.version == .v11)

/-- The length that a header value announces. -/
def length? (value : Bytes) : Option Nat := do
  let number ← Decimal.read? (value.map fun byte => Char.ofNat byte.toNat)
  if number < Word.count64 then some number else none

/-- The length that header values announce together: the same for all of them. -/
def lengthOf : List Bytes → Except HeadFault Nat
  | [] => .ok 0
  | value :: rest =>
    match length? value with
    | none => .error .contentLength
    | some length =>
      if rest.all (length? · == some length) then
        if maxBody < length then .error .tooLarge else .ok length
      else .error .contentLength

/-- What follows the head of a request. -/
def body (request : Request) : Except HeadFault BodyFraming :=
  match request.headers.values "Transfer-Encoding" with
  | [] => (lengthOf (request.headers.values "Content-Length")).map .bytes
  | codings =>
    if request.version ≠ .v11 then .error .unexpectedTransferCoding
    else if (codings.getLast?.map endsInChunks).getD false then .ok .chunks
    else .error .transferCoding

end Framing

namespace WrittenHead

/-- Bytes of a token as text. -/
def tokenText (bytes : Bytes) : String :=
  String.ofList (bytes.map fun byte => Char.ofNat byte.toNat)

/-- The request that a head spells. -/
def request (head : WrittenHead) : Except HeadFault Request := do
  let some method := Method.ofName? (tokenText head.method) | throw .method
  let target ← (RequestTarget.read head.target).mapError fun _ => .target
  let headers := head.headers.map fun (name, value) => (tokenText name, value)
  let headers ← (Headers.ofList isHeaderBytes headers).mapError fun _ => .header
  return ⟨method, target, head.version, headers⟩

/-- The request that a head spells, with its place on the connection. -/
def framed (head : WrittenHead) : Except HeadFault FramedRequest := do
  if HeadReader.maxTarget < head.target.length then throw .targetTooLong
  let request ← head.request
  return ⟨request, ← Framing.body request, Framing.staysOpen request⟩

end WrittenHead

/-- Takes a request head and what it says about its place on the connection. -/
def FramedRequest.read (bytes : Bytes) : HeadRead FramedRequest :=
  match HeadReader.written bytes with
  | .incomplete => if HeadReader.maxPending ≤ bytes.length then .refused .tooLarge else .incomplete
  | .refused fault => .refused fault
  | .complete head rest =>
    match head.framed with
    | .ok framed => .complete framed rest
    | .error fault => .refused fault

end RangeServer
