import RangeServer.Catalogue
import RangeServer.Http.Headers
import RangeServer.Http.Status
import RangeServer.Log.Message
import RangeServer.Range.Header

/-!
# Replies and responses

A reply is the answer to a request: a status, headers in order and a body. A response is a reply
made ready to send, its headers grouped by name. A reply with a header that cannot be sent becomes
an empty internal error, and the log says why.
-/

namespace RangeServer

/-- An answer: status, headers in order, body. -/
structure Reply where
  status : Status
  headers : List (String × String)
  body : Bytes
  deriving DecidableEq

/-- An answer ready to send. -/
structure Response where
  status : Status
  headers : Headers String
  body : Bytes
  deriving DecidableEq

namespace Reply

/-- The first value of a name, compared without the case of ASCII letters. -/
def value? (reply : Reply) (name : String) : Option String :=
  (reply.headers.find? fun header => Ascii.sameLetters header.1 name).map (·.2)

/-- The whole content of a resource. -/
def whole (resource : Resource) : Reply where
  status := .ok
  headers :=
    [("Content-Type", resource.mediaType),
      ("Accept-Ranges", "bytes"),
      ("Content-Length", Decimal.text resource.size)]
  body := resource.content

/-- The text that places a window in content of the given length. -/
def contentRange (window : ByteWindow) (length : Nat) : String :=
  "bytes " ++ Decimal.text window.first ++ "-" ++ Decimal.text window.last ++ "/" ++
    Decimal.text length

/-- One window of a resource; a fault if the window does not lie within the content. -/
def part (resource : Resource) (window : ByteWindow) : Checked Reply := do
  let span ← window.span
  let stop ← Checked.add window.last 1
  let body ← Checked.slice resource.content window.first stop
  return {
    status := .partialContent
    headers :=
      [("Content-Type", resource.mediaType),
        ("Accept-Ranges", "bytes"),
        ("Content-Range", contentRange window resource.size),
        ("Content-Length", Decimal.text span)]
    body := body }

/-- The refusal of a range that content of the given length cannot satisfy. -/
def unsatisfiable (length : Nat) : Reply where
  status := .rangeNotSatisfiable
  headers := [("Content-Range", "bytes */" ++ Decimal.text length)]
  body := []

/-- A plain text of its own length. -/
def plain (status : Status) (more : List (String × String)) (message : String) : Reply where
  status := status
  headers :=
    [("Content-Type", "text/plain")] ++ more ++
      [("Content-Length", Decimal.text (Utf8.encode message).length)]
  body := Utf8.encode message

/-- The answer for a path that is not registered. -/
def notFound (path : String) : Reply := plain .notFound [] ("Not found: " ++ path)

/-- The answer to a method other than the two that are served. -/
def methodNotAllowed : Reply :=
  plain .methodNotAllowed [("Allow", "GET, HEAD")] "405 Method Not Allowed"

/-- The reply for a resource and the outcome of a range request on it. -/
def ofOutcome (resource : Resource) : RangeOutcome → Checked Reply
  | .whole => .ok (whole resource)
  | .part window => part resource window
  | .unsatisfiable => .ok (unsatisfiable resource.size)

/-- The reply made ready to send, without its body if that is left out, and the message to the
log if a header keeps it from being sent. -/
def toResponse (reply : Reply) (omitBody : Bool) : Response × List Message :=
  match Headers.ofList isHeaderText reply.headers with
  | .ok headers => (⟨reply.status, headers, if omitBody then [] else reply.body⟩, [])
  | .error fault =>
    (⟨.internalServerError, .empty, []⟩,
      [.error ("Failed to build " ++ reply.status.describe ++ " response: " ++ fault.message)])

end Reply

/-- The reply for a path, under a policy for ranges past the end: the first resource registered
under it, as much of it as the range header asks for. -/
def Catalogue.reply (catalogue : Catalogue) (path : String) (range : Option String)
    (policy : PastEndPolicy) : Checked Reply :=
  match catalogue.lookup path with
  | some resource => do
    Reply.ofOutcome resource (← RangeOutcome.ofHeader range resource.size policy)
  | none => .ok (.notFound path)

end RangeServer
