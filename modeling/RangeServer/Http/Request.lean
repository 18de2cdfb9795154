import RangeServer.Http.Headers
import RangeServer.Http.TargetReader

/-!
# Requests

A request as the server sees it: a method, a target, a version and headers whose values are bytes.
A header value counts as text only if it is visible ASCII, blanks and tabs.
-/

namespace RangeServer

/-- The version of the protocol that a request speaks. -/
inductive HttpVersion where
  | v09
  | v10
  | v11
  | v2
  | v3
  deriving DecidableEq, Repr

/-- The number of a version. -/
def HttpVersion.text : HttpVersion → String
  | .v09 => "0.9"
  | .v10 => "1.0"
  | .v11 => "1.1"
  | .v2 => "2"
  | .v3 => "3"

/-- A method: a token, in which capitals matter. -/
structure Method where
  name : String
  isToken : Ascii.isToken name = true
  deriving DecidableEq

namespace Method

/-- The method with a name, if the name is a token. -/
def ofName? (name : String) : Option Method :=
  if isToken : Ascii.isToken name = true then some ⟨name, isToken⟩ else none

/-- Whether a method asks for headers alone. -/
def isHead (method : Method) : Bool := method.name == "HEAD"

/-- Whether a method is one of the two that are served. -/
def isServed (method : Method) : Bool := method.name == "GET" || method.isHead

end Method

/-- A request, its body apart. -/
structure Request where
  method : Method
  target : RequestTarget
  version : HttpVersion
  headers : Headers Bytes
  deriving DecidableEq

/-- Why a request is refused. -/
inductive RequestFault where
  | invalidMethod
  | invalidTarget (fault : TargetFault)
  | invalidHeader (fault : HeaderFault)
  deriving DecidableEq, Repr

/-- The wording of a refused request. -/
def RequestFault.message : RequestFault → String
  | .invalidMethod => "invalid HTTP method"
  | .invalidTarget fault => fault.message
  | .invalidHeader fault => fault.message

namespace Request

/-- The request with the given parts, or the fault of the first part that is refused. -/
def make (method : String) (target : Bytes) (version : HttpVersion)
    (headers : List (String × Bytes)) : Except RequestFault Request := do
  let some method := Method.ofName? method | throw .invalidMethod
  let target ← (RequestTarget.read target).mapError .invalidTarget
  let headers ← (Headers.ofList isHeaderBytes headers).mapError .invalidHeader
  return ⟨method, target, version, headers⟩

/-- The first value of a header, if it counts as text. -/
def headerText? (request : Request) (name : String) : Option String :=
  (request.headers.first? name).bind Ascii.visibleText?

end Request

end RangeServer
