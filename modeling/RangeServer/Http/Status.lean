import RangeServer.Text.Decimal

/-!
# Status codes

Response status codes, three digits each, and the standard phrases that name them.
-/

namespace RangeServer

/-- A response status code. -/
structure Status where
  code : Nat
  threeDigits : 100 ≤ code ∧ code ≤ 999 := by decide
  deriving DecidableEq

namespace Status

/-- The status with a code, if the code has three digits. -/
def ofCode? (code : Nat) : Option Status :=
  if threeDigits : 100 ≤ code ∧ code ≤ 999 then some ⟨code, threeDigits⟩ else none

def ok : Status := ⟨200, by decide⟩
def partialContent : Status := ⟨206, by decide⟩
def badRequest : Status := ⟨400, by decide⟩
def notFound : Status := ⟨404, by decide⟩
def methodNotAllowed : Status := ⟨405, by decide⟩
def targetTooLong : Status := ⟨414, by decide⟩
def rangeNotSatisfiable : Status := ⟨416, by decide⟩
def headerFieldsTooLarge : Status := ⟨431, by decide⟩
def internalServerError : Status := ⟨500, by decide⟩

/-- The registered codes with their phrases. -/
def phrases : List (Nat × String) :=
  [(100, "Continue"), (101, "Switching Protocols"), (102, "Processing"), (103, "Early Hints"),
    (200, "OK"), (201, "Created"), (202, "Accepted"), (203, "Non Authoritative Information"),
    (204, "No Content"), (205, "Reset Content"), (206, "Partial Content"),
    (207, "Multi-Status"), (208, "Already Reported"), (226, "IM Used"),
    (300, "Multiple Choices"), (301, "Moved Permanently"), (302, "Found"), (303, "See Other"),
    (304, "Not Modified"), (305, "Use Proxy"), (307, "Temporary Redirect"),
    (308, "Permanent Redirect"), (400, "Bad Request"), (401, "Unauthorized"),
    (402, "Payment Required"), (403, "Forbidden"), (404, "Not Found"),
    (405, "Method Not Allowed"), (406, "Not Acceptable"),
    (407, "Proxy Authentication Required"), (408, "Request Timeout"), (409, "Conflict"),
    (410, "Gone"), (411, "Length Required"), (412, "Precondition Failed"),
    (413, "Payload Too Large"), (414, "URI Too Long"), (415, "Unsupported Media Type"),
    (416, "Range Not Satisfiable"), (417, "Expectation Failed"), (418, "I'm a teapot"),
    (421, "Misdirected Request"), (422, "Unprocessable Entity"), (423, "Locked"),
    (424, "Failed Dependency"), (425, "Too Early"), (426, "Upgrade Required"),
    (428, "Precondition Required"), (429, "Too Many Requests"),
    (431, "Request Header Fields Too Large"), (451, "Unavailable For Legal Reasons"),
    (500, "Internal Server Error"), (501, "Not Implemented"), (502, "Bad Gateway"),
    (503, "Service Unavailable"), (504, "Gateway Timeout"),
    (505, "HTTP Version Not Supported"), (506, "Variant Also Negotiates"),
    (507, "Insufficient Storage"), (508, "Loop Detected"), (510, "Not Extended"),
    (511, "Network Authentication Required")]

/-- The phrase of a registered code. -/
def phrase? (status : Status) : Option String :=
  (phrases.find? (·.1 == status.code)).map (·.2)

/-- A status as a person reads it: its code, then its phrase or a stand-in for one. -/
def describe (status : Status) : String :=
  Decimal.text status.code ++ " " ++ status.phrase?.getD "<unknown status code>"

end Status

end RangeServer
