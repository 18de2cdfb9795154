import RangeServer.Number.Powers
import RangeServer.Settings.Basic
import RangeServer.Settings.Error
import RangeServer.Settings.Setting
import RangeServer.Text.Decimal

/-!
# Settings from what was said

Each setting is read as the type that it has to have, and values of other types are taken for it
where they have an obvious meaning: numbers and truth values for texts, texts and truth values for
numbers. A section is a group of named settings, or a list of them in their fixed order.
-/

namespace RangeServer

namespace Setting

/-- The place that a setting comes from. -/
def origin : Setting → Option String
  | .plain origin _ => origin
  | .list origin _ => origin
  | .group origin _ => origin

/-- What a setting is, for an error about it. -/
def found : Setting → FoundSetting
  | .plain _ .nothing => .nothing
  | .plain _ (.boolean value) => .boolean value
  | .plain _ (.integer value) => .integer value
  | .plain _ (.real value) => .real value
  | .plain _ (.text value) => .text value
  | .list _ _ => .list
  | .group _ _ => .group

/-- The error that a setting is not what it has to be. -/
def mismatch (setting : Setting) (key : String) (wanted : WantedSetting) : SettingsError :=
  .wrongType key setting.origin setting.found wanted

/-- The words for a truth value. -/
def truthText (value : Bool) : String := if value then "true" else "false"

/-- The setting as a text. -/
def toText (key : String) (setting : Setting) : Except SettingsError String :=
  match setting with
  | .plain _ (.text value) => .ok value
  | .plain _ (.boolean value) => .ok (truthText value)
  | .plain _ (.integer value) => .ok (toString value)
  | .plain _ (.real value) => .ok value.text
  | _ => .error (setting.mismatch key .text)

/-- The truth value that a word in small letters means. -/
def truthOfWord? (word : String) : Option Bool :=
  if word = "true" ∨ word = "on" ∨ word = "yes" then some true
  else if word = "false" ∨ word = "off" ∨ word = "no" then some false
  else none

/-- The truth value that a text in small letters means: a word, one or zero. -/
def truthOfText? (text : String) : Option Bool :=
  if text = "1" then some true
  else if text = "0" then some false
  else truthOfWord? text

/-- The setting as a truth value. -/
def toBool (key : String) (setting : Setting) : Except SettingsError Bool :=
  match setting with
  | .plain _ (.boolean value) => .ok value
  | .plain _ (.integer value) => .ok (value != 0)
  | .plain _ (.real value) => .ok (!value.isZero)
  | .plain origin (.text value) =>
    match truthOfText? (Case.lower value) with
    | some truth => .ok truth
    | none => .error (.wrongType key origin (.text (Case.lower value)) .boolean)
  | _ => .error (setting.mismatch key .boolean)

/-- A text without the plus that it may start with. -/
def withoutPlus : List Char → List Char
  | '+' :: rest => rest
  | text => text

/-- The number that a text means: a word for a truth value, or digits behind at most one plus. -/
def numberOfText? (text : String) : Option Nat :=
  match truthOfWord? (Case.lower text) with
  | some truth => some truth.toNat
  | none => do
    let number ← Decimal.read? (withoutPlus text.toList)
    if number < Word.count64 then some number else none

/-- The setting as a number of 64 bits. -/
def toNumber (key : String) (setting : Setting) : Except SettingsError Nat :=
  match setting with
  | .plain _ (.boolean value) => .ok value.toNat
  | .plain origin (.integer value) =>
    if 0 ≤ value ∧ value < Word.count64 then .ok value.toNat
    else .error (.wrongType key origin (.signed value) .unsigned)
  | .plain _ (.real value) => .ok (value.clampToNat (Word.count64 - 1))
  | .plain _ (.text value) =>
    match numberOfText? value with
    | some number => .ok number
    | none => .error (setting.mismatch key .integer)
  | _ => .error (setting.mismatch key .integer)

/-- The setting as a number of 64 bits. -/
def toWord (key : String) (setting : Setting) : Except SettingsError UInt64 :=
  (setting.toNumber key).map UInt64.ofNat

/-- The setting as a number of 16 bits. -/
def toWord16 (key : String) (setting : Setting) : Except SettingsError UInt16 := do
  let number ← setting.toNumber key
  if number < Word.count16 then return UInt16.ofNat number
  else throw (.wrongType key none (.wide number) .unsigned16)

/-- The setting as something that may also be left out. -/
def toOption {α : Type} (read : String → Setting → Except SettingsError α) (key : String)
    (setting : Setting) : Except SettingsError (Option α) :=
  match setting with
  | .plain _ .nothing => .ok none
  | _ => (read key setting).map some

/-- The policy of a name, case aside. -/
def policyOfName? (name : String) : Option PastEndPolicy :=
  [PastEndPolicy.unsatisfiable, PastEndPolicy.collapse].find? fun policy =>
    Case.lower policy.title == Case.lower name

/-- The setting as a policy for ranges past the end. -/
def toPolicy (_key : String) (setting : Setting) : Except SettingsError PastEndPolicy :=
  let named := fun name => match policyOfName? name with
    | some policy => .ok policy
    | none => .error (.unknownPolicy name)
  match setting with
  | .plain _ (.text name) => named name
  | .group _ [(name, _)] => named name
  | _ => .error .unnamedPolicy

end Setting

/-- A section: settings by name, or settings in order. -/
inductive SectionParts where
  | named (fields : List (String × Setting))
  | ordered (items : List Setting)

namespace SectionParts

/-- The parts of a section. -/
def ofSetting (group : SettingsSection) : Setting → Except SettingsError SectionParts
  | .group _ fields => .ok (.named fields)
  | .list _ items => .ok (.ordered items)
  | .plain origin value => .error (.notSection group (Setting.plain origin value).found)

/-- The setting of a section with its key, by name or by position. -/
def find? (parts : SectionParts) (group : SettingsSection) (position : Nat) (name : String) :
    Option (String × Setting) :=
  match parts with
  | .named fields => (fields.lookup name).map fun setting => (group.key ++ "." ++ name, setting)
  | .ordered items =>
    items[position]?.map fun setting => (group.key ++ "[" ++ toString position ++ "]", setting)

/-- The error that a required setting is not there. -/
def missing (parts : SectionParts) (group : SettingsSection) (position : Nat) (name : String) :
    SettingsError :=
  match parts with
  | .named _ => .missingSetting name
  | .ordered _ => .shortSection group position

/-- A setting that has to be there. -/
def required {α : Type} (parts : SectionParts) (group : SettingsSection) (position : Nat)
    (name : String) (read : String → Setting → Except SettingsError α) :
    Except SettingsError α :=
  match parts.find? group position name with
  | some (key, setting) => read key setting
  | none => .error (parts.missing group position name)

/-- A setting with a value for when it is not there. -/
def withDefault {α : Type} (parts : SectionParts) (group : SettingsSection) (position : Nat)
    (name : String) (default : α) (read : String → Setting → Except SettingsError α) :
    Except SettingsError α :=
  match parts.find? group position name with
  | some (key, setting) => read key setting
  | none => .ok default

/-- A setting that a group may lack and a list may not. -/
def optional {α : Type} (parts : SectionParts) (group : SettingsSection) (position : Nat)
    (name : String) (read : String → Setting → Except SettingsError α) :
    Except SettingsError (Option α) :=
  match parts, parts.find? group position name with
  | _, some (key, setting) => setting.toOption read key
  | .named _, none => .ok none
  | .ordered _, none => .error (parts.missing group position name)

end SectionParts

namespace Settings

/-- The settings about the listener. -/
def readServer (setting : Setting) : Except SettingsError ServerSettings := do
  let parts ← SectionParts.ofSetting .server setting
  let host ← parts.required .server 0 "host" Setting.toText
  let port ← parts.required .server 1 "port" Setting.toWord16
  let workers ← parts.optional .server 2 "workers" Setting.toWord
  return ⟨host, port, workers⟩

/-- The settings about the log. -/
def readLogging (setting : Setting) : Except SettingsError LoggingSettings := do
  let parts ← SectionParts.ofSetting .logging setting
  let level ← parts.required .logging 0 "level" Setting.toText
  let accessLog ← parts.required .logging 1 "access_log" Setting.toBool
  let format ← parts.withDefault .logging 2 "access_log_format" "combined" Setting.toText
  let accessFile ← parts.withDefault .logging 3 "access_log_file" none fun key setting =>
    setting.toOption Setting.toText key
  let errorFile ← parts.withDefault .logging 4 "error_log_file" none fun key setting =>
    setting.toOption Setting.toText key
  return ⟨level, accessLog, format, accessFile, errorFile⟩

/-- The settings about limits. -/
def readPerformance (setting : Setting) : Except SettingsError PerformanceSettings := do
  let parts ← SectionParts.ofSetting .performance setting
  let keepAlive ← parts.required .performance 0 "keep_alive_timeout" Setting.toWord
  let read ← parts.required .performance 1 "read_timeout" Setting.toWord
  let write ← parts.required .performance 2 "write_timeout" Setting.toWord
  let maxConnections ← parts.optional .performance 3 "max_connections" Setting.toWord
  return ⟨keepAlive, read, write, maxConnections⟩

/-- The settings about answers. -/
def readHttp (setting : Setting) : Except SettingsError HttpSettings := do
  let parts ← SectionParts.ofSetting .http setting
  let policy ← parts.withDefault .http 0 "start_past_end" .standard Setting.toPolicy
  return ⟨policy⟩

/-- The section of a key among all settings. -/
def part (group : SettingsSection) (fields : List (String × Setting)) :
    Except SettingsError Setting :=
  match fields.lookup group.key with
  | some setting => .ok setting
  | none => .error (.missingSetting group.key)

/-- The settings that the fields of all layers together say. -/
def read (fields : List (String × Setting)) : Except SettingsError Settings := do
  let server ← readServer (← part .server fields)
  let logging ← readLogging (← part .logging fields)
  let performance ← readPerformance (← part .performance fields)
  let http ← readHttp (← part .http fields)
  return ⟨server, logging, performance, http⟩

end Settings

end RangeServer
