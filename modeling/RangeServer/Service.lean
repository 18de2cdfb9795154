import RangeServer.AccessLog.Format
import RangeServer.Http.Reply
import RangeServer.Http.Request
import RangeServer.Net.Printer
import RangeServer.Settings.Basic

/-!
# Service

What the server does with one request: the two methods that read are answered from the catalogue,
all others are refused, and with the access log on one line is written about the reply. The answer
depends on the settings only through the policy for ranges past the end.
-/

namespace RangeServer

/-- Settings and resources, fixed before the first request. -/
structure Service where
  settings : Settings
  catalogue : Catalogue
  deriving DecidableEq

/-- A request with what is known of its delivery: who sent it, when it came and how many
microseconds its reply took. -/
structure Delivery where
  request : Request
  peer : Endpoint
  received : Timestamp
  microseconds : Nat
  deriving DecidableEq

/-- A response with the messages to the log that its making caused, in order. -/
structure Answer where
  response : Response
  messages : List Message
  deriving DecidableEq

namespace Service

/-- The service of the standard resources under given settings. -/
def standard (settings : Settings) : Service := ⟨settings, .standard⟩

/-- Whether requests are logged. -/
def logsAccess (service : Service) : Bool := service.settings.logging.accessLog

/-- The policy for ranges past the end. -/
def policy (service : Service) : PastEndPolicy := service.settings.http.startPastEnd

/-- The form of access log lines. -/
def format (service : Service) : LogFormat := .ofName service.settings.logging.accessLogFormat

/-- The reply to a request and the warning that a refused method causes. -/
def reply (service : Service) (request : Request) : Checked (Reply × List Message) :=
  let target := request.target.lookupText
  if request.method.isServed then do
    let reply ← service.catalogue.reply target (request.headerText? "Range") service.policy
    return (reply, [])
  else
    .ok (.methodNotAllowed,
      [.warning ("Method not allowed: " ++ request.method.name ++ " " ++ target)])

/-- What the access log records of a delivery and the reply to it. -/
def entry (delivery : Delivery) (reply : Reply) : AccessEntry :=
  let request := delivery.request
  { remoteAddress := delivery.peer.address.text
    time := delivery.received
    method := request.method.name
    path := request.target.path
    query := request.target.query
    version := request.version.text
    status := reply.status.code
    bodySize := if request.method.isHead then 0 else reply.body.length
    range := request.headerText? "Range"
    referer := request.headerText? "Referer"
    userAgent := request.headerText? "User-Agent"
    microseconds := delivery.microseconds }

/-- The access line about a delivery, if requests are logged. -/
def accessMessages (service : Service) (delivery : Delivery) (reply : Reply) : List Message :=
  if service.logsAccess then [.access ((entry delivery reply).line service.format)] else []

/-- The response to a delivery. The messages come in the order of their causes: the refused method,
the access line, the header that could not be sent. -/
def handle (service : Service) (delivery : Delivery) : Checked Answer := do
  let (reply, warnings) ← service.reply delivery.request
  let (response, errors) := reply.toResponse delivery.request.method.isHead
  return ⟨response, warnings ++ service.accessMessages delivery reply ++ errors⟩

end Service

end RangeServer
