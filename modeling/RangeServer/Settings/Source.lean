import RangeServer.Json.Number
import RangeServer.Json.Parser
import RangeServer.Settings.Setting
import RangeServer.Text.Replace
import RangeServer.Toml.Document
import RangeServer.Toml.Marked

/-!
# Where settings come from

The settings that a TOML text, a JSON text or the variables of the environment say. Dates and times
of TOML are texts. Of repeated names in a JSON object the last one counts. Settings files may be in
four more forms, whose readers are left open. A variable is a setting if its name starts with
`FIXTURE_` in small or capital letters; two underscores in the rest of the name stand for the point
of a path, and its value is always a text.
-/

namespace RangeServer

namespace Setting

mutual

/-- The setting that a TOML value says. -/
def ofToml (origin : Option String) : Toml → Setting
  | .integer value => .plain origin (.integer value)
  | .real value => .plain origin (.real value)
  | .boolean value => .plain origin (.boolean value)
  | .string value => .plain origin (.text value)
  | .moment text => .plain origin (.text text)
  | .array items => .list origin (itemsOfToml origin items)
  | .table fields => .group origin (fieldsOfToml origin fields)

/-- The settings that the items of a TOML array say. -/
def itemsOfToml (origin : Option String) : List Toml → List Setting
  | [] => []
  | item :: rest => ofToml origin item :: itemsOfToml origin rest

/-- The settings that the fields of a TOML table say. -/
def fieldsOfToml (origin : Option String) : List (String × Toml) → List (String × Setting)
  | [] => []
  | (name, value) :: rest => (name, ofToml origin value) :: fieldsOfToml origin rest

end

/-- The setting that a JSON numeral says, if it denotes a number. -/
def ofNumeral? (origin : Option String) (numeral : Numeral) : Option Setting :=
  match numeral.value? with
  | some (.integer value) => some (.plain origin (.integer value))
  | some (.real value) => some (.plain origin (.real value))
  | none => none

mutual

/-- The setting that a JSON value says, if all its numerals denote numbers. -/
def ofJson? (origin : Option String) : Json → Option Setting
  | .null => some (.plain origin .nothing)
  | .boolean value => some (.plain origin (.boolean value))
  | .number numeral => ofNumeral? origin numeral
  | .string value => some (.plain origin (.text value))
  | .array items => (itemsOfJson? origin items).map (.list origin)
  | .object fields => (fieldsOfJson? origin [] fields).map (.group origin)

/-- The settings that the items of a JSON array say. -/
def itemsOfJson? (origin : Option String) : List Json → Option (List Setting)
  | [] => some []
  | item :: rest =>
    match ofJson? origin item, itemsOfJson? origin rest with
    | some setting, some settings => some (setting :: settings)
    | _, _ => none

/-- The settings that the fields of a JSON object say, behind those of the fields before. -/
def fieldsOfJson? (origin : Option String) (before : List (String × Setting)) :
    List (String × Json) → Option (List (String × Setting))
  | [] => some before
  | (name, value) :: rest =>
    match ofJson? origin value with
    | some setting => fieldsOfJson? origin (putSmall name setting before) rest
    | none => none

end

end Setting

/-- The forms of settings files. -/
inductive FileForm where
  | toml
  | json
  | yaml
  | ini
  | ron
  | json5
  deriving DecidableEq, Repr

namespace FileForm

/-- All forms. -/
def all : List FileForm := [.toml, .json, .yaml, .ini, .ron, .json5]

/-- What the names of files of a form end in, behind a point. -/
def endings : FileForm → List String
  | .toml => ["toml"]
  | .json => ["json"]
  | .yaml => ["yaml", "yml"]
  | .ini => ["ini"]
  | .ron => ["ron"]
  | .json5 => ["json5"]

/-- The form with an ending. -/
def ofEnding? (ending : String) : Option FileForm := all.find? (·.endings.contains ending)

end FileForm

/-- How settings files are looked for and read. The forms are tried in some order, which may be
another one each time, and the texts of the forms other than TOML and JSON are left to readers of
their own: these have the fields that a text says, if it is a group in its form. -/
structure FileForms where
  order : List FileForm
  order_perm : order.Perm FileForm.all
  readOther? : FileForm → String → String → Option (List (String × Setting))

namespace FileForms

/-- TOML and JSON in this order, with no readers for the other forms. -/
def plain : FileForms where
  order := FileForm.all
  order_perm := .refl _
  readOther? _ _ _ := none

/-- The fields that a text in a form says, if it is a group in that form. -/
def read? (forms : FileForms) (form : FileForm) (origin : String) (text : String) :
    Option (List (String × Setting)) :=
  match form with
  | .toml => ((Toml.parse? text).bind Toml.resolveMarks?).bind fun toml =>
    (Setting.ofToml (some origin) toml).fields?
  | .json => ((Json.parse? text).bind (Setting.ofJson? (some origin))).bind Setting.fields?
  | other => forms.readOther? other origin text

end FileForms

namespace Environment

/-- What the names of variables start with, in small letters. -/
def lead : List Char := "fixture_".toList

/-- The key that a variable sets. -/
def key? (name : String) : Option String :=
  let small := (Case.lower name).toList
  if lead.isPrefixOf small then
    some (.ofList (Replace.all "__".toList ".".toList (small.drop lead.length)))
  else none

/-- The settings that variables say. -/
def fields (entries : List (String × String)) : List (String × Setting) :=
  entries.filterMap fun (name, value) =>
    (key? name).map fun key => (key, .plain (some "the environment") (.text value))

end Environment

end RangeServer
