import RangeServer.Log.Level
import RangeServer.Log.Message
import RangeServer.Settings.Basic
import RangeServer.Storage.FileTree
import RangeServer.Text.Utf8

/-!
# Writing the log

Access lines and news go to one target, warnings and errors to another, and a level decides what is
kept. The log is set up once: the first setup that succeeds fixes targets and level for good. Before
that everything is kept, access lines and news on standard output, warnings and errors on standard
error. Each message is written with one line end behind it.
-/

namespace RangeServer

/-- Where messages are written. -/
inductive LogTarget where
  | output
  | errorOutput
  /-- The file in a place. -/
  | file (place : List String)
  deriving DecidableEq, Repr

/-- A log that has been set up. -/
structure LogWriter where
  access : LogTarget
  error : LogTarget
  level : Level
  deriving DecidableEq, Repr

/-- All that a program can write to. -/
structure Outputs where
  output : Bytes
  errorOutput : Bytes
  files : FileTree

namespace Outputs

/-- The outputs with bytes added to a target. -/
def write (outputs : Outputs) (target : LogTarget) (bytes : Bytes) : Outputs :=
  match target with
  | .output => { outputs with output := outputs.output ++ bytes }
  | .errorOutput => { outputs with errorOutput := outputs.errorOutput ++ bytes }
  | .file place => { outputs with files := outputs.files.append place bytes }

end Outputs

namespace LogWriter

/-- Which of two targets messages of a kind go to. -/
def choose (access error : LogTarget) : MessageKind → LogTarget
  | .access => access
  | .info => access
  | .warning => error
  | .error => error

/-- Where a message goes, if it is kept. -/
def target? (writer : LogWriter) (kind : MessageKind) : Option LogTarget :=
  if writer.level.keeps kind then some (choose writer.access writer.error kind) else none

/-- Opens the target of a file name, or takes the target that stands for no name. -/
def openTarget (files : FileTree) (name : Option String) (standard : LogTarget) :
    FileTree × Except IoFault LogTarget :=
  match name with
  | none => (files, .ok standard)
  | some name =>
    match files.openForAppend (.ofText name) with
    | (files, .ok place) => (files, .ok (.file place))
    | (files, .error fault) => (files, .error fault)

/-- Opens the targets that settings ask for, the access target first. -/
def create (files : FileTree) (settings : LoggingSettings) :
    FileTree × Except IoFault LogWriter :=
  match openTarget files settings.accessLogFile .output with
  | (files, .error fault) => (files, .error fault)
  | (files, .ok access) =>
    match openTarget files settings.errorLogFile .errorOutput with
    | (files, .error fault) => (files, .error fault)
    | (files, .ok error) => (files, .ok ⟨access, error, .ofName settings.level⟩)

end LogWriter

/-- A program's log: what it can write to, and how its log is set up, if it is. -/
structure Journal where
  outputs : Outputs
  writer : Option LogWriter

namespace Journal

/-- A log that is not set up, in a file tree. -/
def unset (files : FileTree) : Journal := ⟨⟨[], [], files⟩, none⟩

/-- Where a message goes, if it is kept. -/
def target? (writer : Option LogWriter) (kind : MessageKind) : Option LogTarget :=
  match writer with
  | some writer => writer.target? kind
  | none => some (LogWriter.choose .output .errorOutput kind)

/-- The bytes of a message with the line end behind it. -/
def line (message : Message) : Bytes := Utf8.encode message.text ++ Utf8.encode "\n"

/-- Writes a message. -/
def write (journal : Journal) (message : Message) : Journal :=
  match target? journal.writer message.kind with
  | some target => { journal with outputs := journal.outputs.write target (line message) }
  | none => journal

/-- Writes messages in order. -/
def writeAll (journal : Journal) (messages : List Message) : Journal :=
  messages.foldl write journal

/-- Sets the log up. Files are opened, and with them made, even if the log is set up already. -/
def setUp (journal : Journal) (settings : LoggingSettings) : Journal × Except IoFault Unit :=
  match LogWriter.create journal.outputs.files settings with
  | (files, .error fault) =>
    ({ journal with outputs := { journal.outputs with files } }, .error fault)
  | (files, .ok writer) =>
    let journal := { journal with outputs := { journal.outputs with files } }
    match journal.writer with
    | some _ => (journal, .error .logExists)
    | none => ({ journal with writer := some writer }, .ok ())

end Journal

end RangeServer
