import RangeServer.AccessLog.Pattern
import RangeServer.Json.Printer

/-!
# Log line forms

The forms of access log lines: the two forms of web servers, JSON, and patterns of one's own.
-/

namespace RangeServer

/-- The form of access log lines. -/
inductive LogFormat where
  | combined
  | common
  | json
  | pattern (text : String)
  deriving DecidableEq, Repr

/-- The form that a setting names; a text that names no form is a pattern. -/
def LogFormat.ofName : String → LogFormat
  | "combined" => .combined
  | "common" => .common
  | "json" => .json
  | text => .pattern text

namespace AccessEntry

/-- Address, time, request line, status and size. -/
def commonLine (entry : AccessEntry) : String :=
  entry.remoteAddress ++ " - - [" ++ entry.time.logText ++ "] \"" ++ entry.requestLine ++ "\" " ++
    Decimal.text entry.status ++ " " ++ Decimal.text entry.bodySize

/-- The common line, then referrer and agent between quotes. -/
def combinedLine (entry : AccessEntry) : String :=
  entry.commonLine ++ " \"" ++ orDash entry.referer ++ "\" \"" ++ orDash entry.userAgent ++ "\""

/-- The fields of an entry under their names, in alphabetical order. -/
def toJson (entry : AccessEntry) : Json :=
  .object
    [("body_bytes", .ofNat entry.bodySize),
      ("http_version", .string entry.version),
      ("method", .string entry.method),
      ("path", .string entry.path),
      ("query", .ofOption entry.query),
      ("range", .ofOption entry.range),
      ("referer", .ofOption entry.referer),
      ("remote_addr", .string entry.remoteAddress),
      ("request_time_us", .ofNat entry.microseconds),
      ("status", .ofNat entry.status),
      ("time", .string entry.time.internetText),
      ("user_agent", .ofOption entry.userAgent)]

/-- The line of an entry in a given form. -/
def line (entry : AccessEntry) : LogFormat → String
  | .combined => entry.combinedLine
  | .common => entry.commonLine
  | .json => entry.toJson.toText
  | .pattern text => String.ofList (LogPattern.expand entry text.toList)

end AccessEntry

end RangeServer
