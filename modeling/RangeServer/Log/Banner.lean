import RangeServer.Catalogue
import RangeServer.Log.Message
import RangeServer.Net.Printer
import RangeServer.Settings.Basic
import RangeServer.Text.Decimal
import RangeServer.Text.Lines

/-!
# Banner

What the server writes about itself when it starts: the address, some settings, a line per
registered path and the first lines of the sample table. Each line of the banner is a message of its
own. A path that was registered twice has two lines, both about the resource that is served.
-/

namespace RangeServer.Banner

/-- The line above and below the banner. -/
def rule : String := String.ofList (List.replicate 38 '=')

/-- A line about a setting that may not be set. -/
def settingLine (title : String) (value : Option String) : List String :=
  match value with
  | some value => [title ++ ": " ++ value]
  | none => []

/-- The line about a registered path. -/
def endpointLine (path : String) (resource : Resource) : String :=
  "  GET " ++ path ++ " (" ++ resource.mediaType ++ ", " ++ Decimal.text resource.size ++
    " bytes)"

/-- The lines about all registered paths, in order. -/
def endpointLines (catalogue : Catalogue) : List String :=
  catalogue.paths.filterMap fun path => (catalogue.lookup path).map (endpointLine path)

/-- How many lines of the sample table are shown. -/
def previewLength : Nat := 3

/-- The first lines of the sample table, if it is registered. -/
def previewLines (catalogue : Catalogue) : List String :=
  match catalogue.lookup Catalogue.samplePath with
  | some resource =>
    let shown := (Lines.ofText (Utf8.decodeLossy resource.content)).take previewLength
    "CSV data preview:" :: (shown.map ("  " ++ ·) ++ ["  ..."])
  | none => []

/-- The lines about the settings. -/
def settingLines (settings : Settings) : List String :=
  ["Log level: " ++ settings.logging.level] ++
    settingLine "Worker threads"
      (settings.server.workers.map fun workers => Decimal.text workers.toNat) ++
    settingLine "Access log" settings.logging.accessLogFile ++
    settingLine "Error log" settings.logging.errorLogFile ++
    ["Range start past end: " ++ settings.http.startPastEnd.title]

/-- The lines of the banner; behind the last one stands an empty line. -/
def lines (endpoint : Endpoint) (settings : Settings) (catalogue : Catalogue) : List String :=
  [rule, "Range fixture server started", "Listening on: http://" ++ endpoint.text] ++
    settingLines settings ++ ["Available endpoints:"] ++ endpointLines catalogue ++
    previewLines catalogue ++ [rule ++ "\n"]

/-- The messages of the banner. -/
def messages (endpoint : Endpoint) (settings : Settings) (catalogue : Catalogue) : List Message :=
  (lines endpoint settings catalogue).map Message.info

end RangeServer.Banner
