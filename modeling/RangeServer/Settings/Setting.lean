import RangeServer.Number.Binary64
import RangeServer.Text.Case

/-!
# Settings before they have types

What a file or the environment says about a setting: a plain value, a list or a group of named
settings, with the place where it was said. Names in groups are compared by their small letters. A
group that is put over another adds to it name by name; anything else takes the place of what was
there.
-/

namespace RangeServer

/-- A setting without parts. -/
inductive PlainSetting where
  | nothing
  | boolean (value : Bool)
  | integer (value : Int)
  | real (value : Binary64)
  | text (value : String)
  deriving DecidableEq, Repr

/-- A setting with the place that it comes from, if that is known. -/
inductive Setting where
  | plain (origin : Option String) (value : PlainSetting)
  | list (origin : Option String) (items : List Setting)
  | group (origin : Option String) (fields : List (String × Setting))
  deriving Repr

namespace Setting

/-- The group without fields. -/
def empty : Setting := .group none []

/-- A setting that has not been said. -/
def nothing : Setting := .plain none .nothing

/-- The setting of a name among fields. -/
def field? (fields : List (String × Setting)) (name : String) : Option Setting :=
  fields.lookup (Case.lower name)

/-- Fields with the setting of a name replaced, or added at the end. -/
def putSmall (name : String) (setting : Setting) :
    List (String × Setting) → List (String × Setting)
  | [] => [(name, setting)]
  | (other, old) :: rest =>
    if other = name then (name, setting) :: rest else (other, old) :: putSmall name setting rest

/-- Fields with the setting of a name, in small letters, replaced or added. -/
def put (name : String) (setting : Setting) (fields : List (String × Setting)) :
    List (String × Setting) :=
  putSmall (Case.lower name) setting fields

/-- The origin and the fields of a group; anything else counts as a group without fields. -/
def asGroup : Setting → Option String × List (String × Setting)
  | .group origin fields => (origin, fields)
  | _ => (none, [])

/-- The fields of a group. -/
def fields? : Setting → Option (List (String × Setting))
  | .group _ fields => some fields
  | _ => none

/-- The origin and the items of a list; anything else counts as a list without items. -/
def asList : Setting → Option String × List Setting
  | .list origin items => (origin, items)
  | _ => (none, [])

mutual

/-- What stands in a place after a setting is put there; `target` is what stood there, or the empty
group. -/
def onto : Setting → Setting → Setting
  | .group _ fields, target => mergeFields fields target
  | incoming, _ => incoming

/-- The target with fields put over it. Without any field it stays what it is. -/
def mergeFields : List (String × Setting) → Setting → Setting
  | [], target => target
  | (name, incoming) :: rest, target =>
    let (origin, fields) := target.asGroup
    let merged := incoming.onto ((field? fields name).getD .empty)
    mergeFields rest (.group origin (put name merged fields))

end

end Setting

end RangeServer
