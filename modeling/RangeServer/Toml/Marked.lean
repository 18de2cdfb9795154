import RangeServer.Toml.Basic
import RangeServer.Toml.Moment

/-!
# Marked dates and times

A table whose first field has a certain name stands for the date or the time that the text of this
field spells, whatever else the table holds. A table that is marked so by anything but such a text
has no meaning.
-/

namespace RangeServer.Toml

/-- The name that marks a table as a date or a time. -/
def momentMark : String := "$__toml_private_datetime"

/-- The date or the time that the value of a marked field spells. -/
def markedMoment? : Toml → Option Toml
  | .string text =>
    (TomlMoment.whole? text.toList).map fun moment => .moment (String.ofList moment)
  | _ => none

mutual

/-- A value with its marked tables made dates and times. -/
def resolveMarks? : Toml → Option Toml
  | .array items => (resolveItems? items).map .array
  | .table [] => some (.table [])
  | .table ((name, value) :: rest) =>
    if name = momentMark then markedMoment? value
    else
      match resolveMarks? value, resolveFields? rest with
      | some value, some fields => some (.table ((name, value) :: fields))
      | _, _ => none
  | value => some value

/-- Items with their marked tables made dates and times. -/
def resolveItems? : List Toml → Option (List Toml)
  | [] => some []
  | item :: rest =>
    match resolveMarks? item, resolveItems? rest with
    | some item, some items => some (item :: items)
    | _, _ => none

/-- Fields with their marked tables made dates and times. -/
def resolveFields? : List (String × Toml) → Option (List (String × Toml))
  | [] => some []
  | (name, value) :: rest =>
    match resolveMarks? value, resolveFields? rest with
    | some value, some fields => some ((name, value) :: fields)
    | _, _ => none

end

end RangeServer.Toml
