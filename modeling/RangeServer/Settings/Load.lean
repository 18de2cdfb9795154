import RangeServer.Settings.Decode
import RangeServer.Settings.KeyPath
import RangeServer.Settings.Source
import RangeServer.Storage.FileTree
import RangeServer.Text.Utf8

/-!
# Loading settings

Settings come in three layers: what holds if nothing is said, a settings file, and the environment.
A later layer is put over the earlier ones. The file is the one that the path names, if its name has
a known ending, and else the first that the path with a known ending behind it names. It need not be
there, and a file that holds no text counts as not there.
-/

namespace RangeServer

/-- A settings file: its form, what it is called in errors, and what it holds. -/
structure SettingsFile where
  form : FileForm
  title : String
  content : Bytes
  deriving DecidableEq, Repr

namespace SettingsFile

/-- What a file is called in errors: its path from the home directory. -/
def titleOf (path : PathName) (names : List String) : String :=
  let text := "/".intercalate (names.filter (· != "."))
  if path.fromRoot then "/" ++ text else text

/-- The path with an ending behind its last name, if it ends in a name. -/
def withEnding? (path : PathName) (ending : String) : Option PathName :=
  match path.moves.getLast? with
  | some last =>
    if last = ".." then none
    else some ⟨path.upToLastMove.parts.dropLast ++ [last ++ "." ++ ending]⟩
  | none => none

/-- The file in a form that a path with one of its endings behind it names. -/
def appended? (tree : FileTree) (path : PathName) (form : FileForm) : Option SettingsFile :=
  form.endings.findSome? fun ending => do
    let longer ← withEnding? path ending
    let content ← tree.content? longer
    return ⟨form, titleOf longer longer.names, content⟩

/-- The settings file of a path. -/
def find? (forms : FileForms) (tree : FileTree) (path : PathName) : Option SettingsFile :=
  match tree.content? path with
  | some content => do
    let form ← FileForm.ofEnding? (PathName.ending (path.moves.getLast?.getD ""))
    return ⟨form, titleOf path path.names, content⟩
  | none => forms.order.findSome? (appended? tree path)

/-- The settings that a file says. -/
def fields (forms : FileForms) (file : SettingsFile) :
    Except SettingsError (List (String × Setting)) :=
  match Utf8.decode? file.content with
  | none => .ok []
  | some text =>
    match forms.read? file.form file.title text with
    | some fields => .ok fields
    | none => .error .unreadableFile

end SettingsFile

namespace Settings

/-- What holds if nothing is said. -/
def defaults : List (String × PlainSetting) :=
  [("server.host", .text "0.0.0.0"), ("server.port", .integer 8000),
    ("logging.level", .text "info"), ("logging.access_log", .boolean true),
    ("logging.access_log_format", .text "combined"),
    ("performance.keep_alive_timeout", .integer 75), ("performance.read_timeout", .integer 30),
    ("performance.write_timeout", .integer 30), ("http.start_past_end", .text "unsatisfiable")]

/-- The first layer. -/
def defaultLayer : Checked Setting :=
  Setting.empty.layer (defaults.map fun (key, value) => (key, .plain none value))

/-- The settings of all layers together. -/
def layers (file environment : List (String × Setting)) : Checked Setting := do
  let said ← (← Setting.empty.layer file).layer environment
  (← defaultLayer).layer said.asGroup.2

/-- The settings that the file of a path and the variables of the environment say. Subscripts that
do not fit their lists end in a fault. -/
def load (forms : FileForms) (tree : FileTree) (path : String)
    (environment : List (String × String)) : Checked (Except SettingsError Settings) := do
  let found := match SettingsFile.find? forms tree (.ofText path) with
    | some file => file.fields forms
    | none => .ok []
  match found with
  | .error fault => return .error fault
  | .ok file => return Settings.read (← layers file (Environment.fields environment)).asGroup.2

end Settings

end RangeServer
