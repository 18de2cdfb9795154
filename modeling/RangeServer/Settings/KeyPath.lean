import RangeServer.Checked
import RangeServer.Settings.Setting
import RangeServer.Text.Decimal

/-!
# Paths to settings

A path such as `server.port` or `hosts[0].name`: a name, then names behind points and subscripts in
brackets. A negative subscript counts from the end of a list and must not reach before its start.
Putting a setting at the end of a path makes the groups and lists that the path asks for, in place
of whatever else stood on the way.
-/

namespace RangeServer

/-- A step from a setting to a part of it. -/
inductive KeyStep where
  | name (name : String)
  | index (index : Int)
  deriving DecidableEq, Repr

/-- A path from the group of all settings to one of them. -/
structure KeyPath where
  first : String
  rest : List KeyStep
  deriving DecidableEq, Repr

namespace KeyPath

/-- Whether a character may stand in a name. -/
def isNameChar (c : Char) : Bool := c.isAlphanum || c == ' ' || c == '_' || c == '-'

/-- Takes a name. -/
def name (text : List Char) : Option (String × List Char) :=
  let run := text.takeWhile isNameChar
  if run.isEmpty then none else some (.ofList run, text.dropWhile isNameChar)

/-- Whether a character may stand around a subscript. -/
def isSpace (c : Char) : Bool := c == ' ' || c == '\t'

/-- The integer with a sign and a size, if 64 bits hold it. -/
def index? (negative : Bool) (size : Nat) : Option Int :=
  if negative then
    if size ≤ Word.signedBound64 then some (-size) else none
  else if size < Word.signedBound64 then some size else none

/-- Takes a subscript and its closing bracket. -/
def subscript (text : List Char) : Option (Int × List Char) := do
  let text := text.dropWhile isSpace
  let (negative, text) := match text with
    | '-' :: rest => (true, rest)
    | _ => (false, text)
  let size ← Decimal.read? (text.takeWhile Char.isDigit)
  let index ← index? negative size
  match (text.dropWhile Char.isDigit).dropWhile isSpace with
  | ']' :: rest => some (index, rest)
  | _ => none

/-- Reads the steps of a path up to its end, `fuel` bounding their number. -/
def steps : Nat → List Char → Option (List KeyStep)
  | _, [] => some []
  | 0, _ => none
  | fuel + 1, '.' :: rest => do
    let (name, rest) ← name rest
    return .name name :: (← steps fuel rest)
  | fuel + 1, '[' :: rest => do
    let (index, rest) ← subscript rest
    return .index index :: (← steps fuel rest)
  | _ + 1, _ => none

/-- The path that a text spells. -/
def read? (text : String) : Option KeyPath := do
  let (first, rest) ← name text.toList
  return ⟨first, ← steps (rest.length + 1) rest⟩

end KeyPath

namespace Setting

/-- The largest number of items that a list has room for, each item taking 96 bytes. -/
def maxItems : Nat := (Word.signedBound64 - 1) / 96

/-- A list with enough items for a subscript, and the place that the subscript means. A list that is
too short for a subscript from the front grows at its end. -/
def fit (items : List Setting) (index : Int) : Checked (List Setting × Nat) :=
  if index < 0 then do return (items, ← Checked.sub items.length index.natAbs)
  else if maxItems ≤ index.toNat then .error .noRoom
  else .ok (items ++ List.replicate (index.toNat + 1 - items.length) nothing, index.toNat)

/-- The root with a setting at the end of a path, of which `step` is the first step. -/
def place (setting : Setting) : KeyStep → List KeyStep → Setting → Checked Setting
  | .name name, [], root => .ok (mergeFields [(name, setting)] root)
  | .name name, next :: rest, root => do
    let (origin, fields) := root.asGroup
    let child ← place setting next rest ((field? fields name).getD nothing)
    return .group origin (put name child fields)
  | .index index, [], root => do
    let (origin, items) := root.asList
    let (items, position) ← fit items index
    return .list origin (items.set position setting)
  | .index index, next :: rest, root => do
    let (origin, items) := root.asList
    let (items, position) ← fit items index
    let child ← place setting next rest (items.getD position nothing)
    return .list origin (items.set position child)

/-- The root with a setting under a key: at the end of a path, if the key spells one, and else under
the key as a name. -/
def putKey (key : String) (setting root : Setting) : Checked Setting :=
  match KeyPath.read? key with
  | some path => place setting (.name path.first) path.rest root
  | none => .ok (mergeFields [(key, setting)] root)

/-- The root with all of some fields put over it in turn, their names being read as keys. -/
def layer (fields : List (String × Setting)) (root : Setting) : Checked Setting :=
  fields.foldlM (fun root field => putKey field.1 field.2 root) root

end Setting

end RangeServer
