import RangeServer.AccessLog.Entry
import RangeServer.Number.Fixed
import RangeServer.Text.Replace

/-!
# Log patterns

A pattern is text with variables in it. `expand` replaces the variables one after the other
throughout the text, so that text from an entry may be taken for a variable that comes later in the
order. `expandOnce` reads the pattern a single time from left to right, takes the longest variable
at each place and copies what the entry gives as it is.
-/

namespace RangeServer

/-- The variables of a pattern. -/
inductive LogVariable where
  | remoteAddress
  | localTime
  | internetTime
  | requestTime
  | method
  | uri
  | requestLine
  | status
  | bodySize
  | range
  | referer
  | userAgent
  deriving DecidableEq, Repr

namespace LogVariable

/-- The variables in the order of their replacement: those whose names start with the name of
another come before it. -/
def order : List LogVariable :=
  [remoteAddress, localTime, internetTime, requestTime, method, uri, requestLine, status, bodySize,
    range, referer, userAgent]

/-- How a variable is written in a pattern. -/
def name : LogVariable → String
  | remoteAddress => "$remote_addr"
  | localTime => "$time_local"
  | internetTime => "$time_iso8601"
  | requestTime => "$request_time"
  | method => "$request_method"
  | uri => "$request_uri"
  | requestLine => "$request"
  | status => "$status"
  | bodySize => "$body_bytes_sent"
  | range => "$http_range"
  | referer => "$http_referer"
  | userAgent => "$http_user_agent"

/-- A duration in seconds with three places, from the quotient in double precision. -/
def secondsText (microseconds : Nat) : String :=
  let seconds := do
    let count ← Dyadic.nearest? microseconds 1
    Dyadic.nearest? count.numerator (count.denominator * 1000000)
  (seconds.getD .zero).fixedText 3

/-- What a variable stands for in an entry. -/
def value (entry : AccessEntry) : LogVariable → String
  | remoteAddress => entry.remoteAddress
  | localTime => entry.time.logText
  | internetTime => entry.time.internetText
  | requestTime => secondsText entry.microseconds
  | method => entry.method
  | uri => entry.uri
  | requestLine => entry.requestLine
  | status => Decimal.text entry.status
  | bodySize => Decimal.text entry.bodySize
  | range => AccessEntry.orDash entry.range
  | referer => AccessEntry.orDash entry.referer
  | userAgent => AccessEntry.orDash entry.userAgent

end LogVariable

namespace LogPattern

/-- The pattern with each variable replaced throughout, one variable after the other. -/
def expand (entry : AccessEntry) (pattern : List Char) : List Char :=
  LogVariable.order.foldl
    (fun text slot => Replace.all slot.name.toList (slot.value entry).toList text)
    pattern

/-- The variable with the longest name that a text starts with. -/
def longestAt? (text : List Char) : Option LogVariable :=
  (LogVariable.order.filter fun slot => slot.name.toList.isPrefixOf text).foldl
    (fun best slot => match best with
      | some other => if other.name.length < slot.name.length then some slot else best
      | none => some slot)
    none

/-- The pattern with each variable replaced in one pass, its first `skip` characters being the rest
of a variable that was replaced already. -/
def expandFrom (entry : AccessEntry) : Nat → List Char → List Char
  | _, [] => []
  | skip + 1, _ :: rest => expandFrom entry skip rest
  | 0, c :: rest =>
    match longestAt? (c :: rest) with
    | some slot =>
      (slot.value entry).toList ++ expandFrom entry (slot.name.length - 1) rest
    | none => c :: expandFrom entry 0 rest

/-- The pattern read a single time from left to right. -/
def expandOnce (entry : AccessEntry) (pattern : List Char) : List Char :=
  expandFrom entry 0 pattern

end LogPattern

end RangeServer
