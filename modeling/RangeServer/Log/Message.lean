/-!
# Log messages

A message to the log is of one of four kinds, which decide where it goes and at which level it is
kept. The wording of the messages that the server writes about itself is collected here.
-/

namespace RangeServer

/-- The kinds of messages. -/
inductive MessageKind where
  /-- One line per request. -/
  | access
  /-- News of the server's life. -/
  | info
  | warning
  | error
  deriving DecidableEq, Repr

/-- A message to the log, without the line end that follows it there. -/
structure Message where
  kind : MessageKind
  text : String
  deriving DecidableEq, Repr

namespace Message

def info (text : String) : Message := ⟨.info, text⟩

def access (line : String) : Message := ⟨.access, line⟩

def warning (text : String) : Message := ⟨.warning, "[WARN] " ++ text⟩

def error (text : String) : Message := ⟨.error, "[ERROR] " ++ text⟩

def signal (text : String) : Message := info ("[SIGNAL] " ++ text)

end Message

end RangeServer
