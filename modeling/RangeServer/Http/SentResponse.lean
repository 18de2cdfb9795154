import RangeServer.Http.Framing
import RangeServer.Http.Reply

/-!
# Responses on a connection

A response as it goes over a connection: in the version of the request, with the headers that tell
the other side whether the connection stays open and how long the body is. The moment of sending is
not part of it.
-/

namespace RangeServer

/-- A response as it is sent. -/
structure SentResponse where
  version : HttpVersion
  status : Status
  headers : List (String × String)
  body : Bytes
  deriving DecidableEq

namespace SentResponse

/-- The header about the connection: the newer version announces the end, the older one that there
is none. -/
def connectionHeader (version : HttpVersion) (staysOpen : Bool) : List (String × String) :=
  match version, staysOpen with
  | .v10, true => [("connection", "keep-alive")]
  | .v10, false => []
  | _, true => []
  | _, false => [("connection", "close")]

/-- The header about the length of the body, if it is not there already. The answer to a request for
headers alone gets one only for a body that is there. -/
def lengthHeader (response : Response) (headOnly : Bool) : List (String × String) :=
  if (response.headers.first? "content-length").isSome then []
  else if headOnly ∧ response.body = [] then []
  else [("content-length", Decimal.text response.body.length)]

/-- The response to a request, as it is sent. -/
def ofResponse (response : Response) (request : Request) (staysOpen : Bool) : SentResponse where
  version := request.version
  status := response.status
  headers := response.headers.toList ++ connectionHeader request.version staysOpen ++
    lengthHeader response request.method.isHead
  body := response.body

/-- The answer to bytes that can never become a request. -/
def ofFault (fault : HeadFault) : SentResponse where
  version := .v11
  status := fault.status
  headers := [("connection", "close"), ("content-length", "0")]
  body := []

/-- The first line of a response. -/
def statusLine (response : SentResponse) : String :=
  "HTTP/" ++ response.version.text ++ " " ++ response.status.describe

/-- The lines of the headers. -/
def headerLines (response : SentResponse) : List String :=
  response.headers.map fun (name, value) => name ++ ": " ++ value

/-- The bytes of a response. -/
def bytes (response : SentResponse) : Bytes :=
  let lines := response.statusLine :: response.headerLines
  Utf8.encode (String.join (lines.map (· ++ "\r\n")) ++ "\r\n") ++ response.body

end SentResponse

end RangeServer
