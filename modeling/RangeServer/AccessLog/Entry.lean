import RangeServer.Text.Decimal
import RangeServer.Time.Timestamp

/-!
# Access log entries

What the access log records of one request, and the texts that every form of log line builds on.
-/

namespace RangeServer

/-- One request as the access log records it. -/
structure AccessEntry where
  remoteAddress : String
  time : Timestamp
  method : String
  path : String
  query : Option String
  version : String
  status : Nat
  bodySize : Nat
  range : Option String
  referer : Option String
  userAgent : Option String
  microseconds : Nat
  deriving DecidableEq, Repr

namespace AccessEntry

/-- The path, with a question mark and the query if there is one. -/
def uri (entry : AccessEntry) : String :=
  match entry.query with
  | some query => entry.path ++ "?" ++ query
  | none => entry.path

/-- The method, the URI and the version, with blanks between them. -/
def requestLine (entry : AccessEntry) : String :=
  entry.method ++ " " ++ entry.uri ++ " HTTP/" ++ entry.version

/-- A text, or a dash without one. -/
def orDash (text : Option String) : String := text.getD "-"

end AccessEntry

end RangeServer
