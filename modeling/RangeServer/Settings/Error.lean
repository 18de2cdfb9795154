import RangeServer.Number.Shortest
import RangeServer.Text.Quoted

/-!
# Errors in settings

Why settings cannot be used, and how that is said.
-/

namespace RangeServer

/-- What was found in place of what a setting asks for. -/
inductive FoundSetting where
  | nothing
  | boolean (value : Bool)
  | integer (value : Int)
  /-- An integer where one with a sign is not allowed. -/
  | signed (value : Int)
  /-- An integer where one of so many bits is not allowed. -/
  | wide (value : Nat)
  | real (value : Binary64)
  | text (value : String)
  | list
  | group
  deriving DecidableEq, Repr

/-- The words for a real number: with a point if the number is finite. -/
def Binary64.pointText (number : Binary64) : String :=
  match number with
  | .finite _ _ => if number.text.contains '.' then number.text else number.text ++ ".0"
  | _ => number.text

/-- The words for what was found. -/
def FoundSetting.words : FoundSetting → String
  | .nothing => "unit value"
  | .boolean value => "boolean `" ++ (if value then "true" else "false") ++ "`"
  | .integer value => "integer `" ++ toString value ++ "`"
  | .signed value => "64-bit integer `" ++ toString value ++ "`"
  | .wide value => "64-bit unsigned integer `" ++ toString value ++ "`"
  | .real value => "floating point `" ++ value.pointText ++ "`"
  | .text value => "string " ++ Quoted.quote value
  | .list => "sequence"
  | .group => "map"

/-- What a setting can ask for. -/
inductive WantedSetting where
  | text
  | boolean
  | integer
  | unsigned
  | unsigned16
  deriving DecidableEq, Repr

/-- The words for what a setting asks for. -/
def WantedSetting.words : WantedSetting → String
  | .text => "a string"
  | .boolean => "a boolean"
  | .integer => "an integer"
  | .unsigned => "an unsigned 64 bit or less integer"
  | .unsigned16 => "an unsigned 16 bit integer"

/-- The sections of the settings. -/
inductive SettingsSection where
  | server
  | logging
  | performance
  | http
  deriving DecidableEq, Repr

namespace SettingsSection

/-- The key of a section. -/
def key : SettingsSection → String
  | .server => "server"
  | .logging => "logging"
  | .performance => "performance"
  | .http => "http"

/-- The words for what a section has to be. -/
def title : SettingsSection → String
  | .server => "struct ServerConfig"
  | .logging => "struct LoggingConfig"
  | .performance => "struct PerformanceConfig"
  | .http => "struct HttpConfig"

/-- How many settings a section has. -/
def size : SettingsSection → Nat
  | .server => 3
  | .logging => 5
  | .performance => 4
  | .http => 1

end SettingsSection

/-- Why settings cannot be used. -/
inductive SettingsError where
  /-- A file is not written in the form that its name announces. -/
  | unreadableFile
  /-- A setting is not of the type that it has to be. -/
  | wrongType (key : String) (origin : Option String) (found : FoundSetting)
      (wanted : WantedSetting)
  /-- A section is neither a group nor a list. -/
  | notSection (group : SettingsSection) (found : FoundSetting)
  /-- A section given as a list ends before its last required setting. -/
  | shortSection (group : SettingsSection) (length : Nat)
  /-- A section given as a group lacks a required setting. -/
  | missingSetting (name : String)
  /-- The policy for ranges past the end has an unknown name. -/
  | unknownPolicy (name : String)
  /-- The policy for ranges past the end is neither a text nor a group of one setting. -/
  | unnamedPolicy
  deriving DecidableEq, Repr

/-- How an error in settings is said. -/
def SettingsError.text : SettingsError → String
  | .unreadableFile => "the settings file cannot be read"
  | .wrongType key origin found wanted =>
    let place := match origin with
      | some origin => " in " ++ origin
      | none => ""
    "invalid type: " ++ found.words ++ ", expected " ++ wanted.words ++
      " for key `" ++ key ++ "`" ++ place
  | .notSection group found => "invalid type: " ++ found.words ++ ", expected " ++ group.title
  | .shortSection group length =>
    "invalid length " ++ toString length ++ ", expected " ++ group.title ++ " with " ++
      toString group.size ++ " element" ++ (if group.size = 1 then "" else "s")
  | .missingSetting name => "missing field `" ++ name ++ "`"
  | .unknownPolicy name => "enum RangePolicy does not have variant constructor " ++ name
  | .unnamedPolicy =>
    "value of enum RangePolicy should be represented by either string or table with exactly one key"

end RangeServer
