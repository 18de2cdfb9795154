import RangeServer.Toml.Basic

/-!
# TOML tables under construction

A table grows by one announcement or one field at a time, and each addition is checked against how
the tables on its way came into being. A table that only stood on the way to another may still be
announced, once. A table that dotted keys made grows by dotted keys alone, and a table that was
announced does not grow by dotted keys from outside. A list of tables stands for its last one.
-/

namespace RangeServer

/-- How a table came into being. -/
inductive TomlOrigin where
  /-- By a line of its own. -/
  | announced
  /-- On the way to an announced table. -/
  | implied
  /-- On the way to a field with a dotted key. -/
  | dotted
  deriving DecidableEq, Repr

/-- What a name stands for in a table under construction. -/
inductive TomlNode where
  | value (value : Toml)
  | table (origin : TomlOrigin) (fields : List (String × TomlNode))
  | tables (elements : List (List (String × TomlNode)))
  deriving Repr

/-- A table under construction. -/
structure TomlTable where
  origin : TomlOrigin
  fields : List (String × TomlNode)
  deriving Repr

mutual

/-- The value of a node, without its history. -/
def TomlNode.toToml : TomlNode → Toml
  | .value leaf => leaf
  | .table _ fields => .table (TomlNode.fieldValues fields)
  | .tables elements => .array (TomlNode.elementValues elements)

/-- The fields of a node, without their history. -/
def TomlNode.fieldValues : List (String × TomlNode) → List (String × Toml)
  | [] => []
  | (name, node) :: rest => (name, node.toToml) :: TomlNode.fieldValues rest

/-- The tables of a list, without their history. -/
def TomlNode.elementValues : List (List (String × TomlNode)) → List Toml
  | [] => []
  | fields :: rest => .table (TomlNode.fieldValues fields) :: TomlNode.elementValues rest

end

namespace TomlTable

/-- The table of a document or of an inline table before its first field. -/
def empty : TomlTable := ⟨.announced, []⟩

/-- The finished table. -/
def toToml (table : TomlTable) : Toml := .table (TomlNode.fieldValues table.fields)

/-- What a name stands for. -/
def get? (table : TomlTable) (name : String) : Option TomlNode := table.fields.lookup name

/-- Fields with one of them replaced, or added at the end. -/
def putField (name : String) (node : TomlNode) :
    List (String × TomlNode) → List (String × TomlNode)
  | [] => [(name, node)]
  | (other, old) :: rest =>
    if other = name then (name, node) :: rest else (other, old) :: putField name node rest

/-- The table with a node under a name. -/
def put (table : TomlTable) (name : String) (node : TomlNode) : TomlTable :=
  { table with fields := putField name node table.fields }

/-- The table with a node under a name, behind all other fields. -/
def putLast (table : TomlTable) (name : String) (node : TomlNode) : TomlTable :=
  { table with fields := table.fields.filter (·.1 != name) ++ [(name, node)] }

/-- The node of a finished table. -/
def toNode (table : TomlTable) : TomlNode := .table table.origin table.fields

/-- Changes the table at the end of a path. Tables that are missing on the way are made, as dotted
ones or as implied ones. -/
def change (dotted : Bool) (edit : TomlTable → Option TomlTable) :
    List String → TomlTable → Option TomlTable
  | [], table => edit table
  | name :: path, table =>
    match table.get? name with
    | none => do
      let child ← change dotted edit path ⟨if dotted then .dotted else .implied, []⟩
      return table.put name child.toNode
    | some (.value _) => none
    | some (.table origin fields) =>
      if dotted ∧ origin = .announced then none
      else do
        let child ← change dotted edit path ⟨origin, fields⟩
        return table.put name child.toNode
    | some (.tables elements) => do
      let last ← elements.getLast?
      let child ← change dotted edit path ⟨.announced, last⟩
      return table.put name (.tables (elements.dropLast ++ [child.fields]))

/-- Adds a field to the table that a dotted key leads to; `path` is the key without its last
part. -/
def addField (path : List String) (name : String) (value : Toml) (table : TomlTable) :
    Option TomlTable :=
  table.change true (fun parent =>
    if (parent.origin = .dotted) = (path = []) then none
    else match parent.get? name with
      | some _ => none
      | none => some (parent.put name (.value value))) path

/-- Announces a table. One that only stood on the way to another moves behind all its
neighbours. -/
def announce (path : List String) (name : String) (table : TomlTable) : Option TomlTable :=
  table.change false (fun parent =>
    match parent.get? name with
    | none => some (parent.put name (.table .announced []))
    | some (.table .implied fields) => some (parent.putLast name (.table .announced fields))
    | some _ => none) path

/-- Announces a further table of a list. -/
def announceNext (path : List String) (name : String) (table : TomlTable) : Option TomlTable :=
  table.change false (fun parent =>
    match parent.get? name with
    | none => some (parent.put name (.tables [[]]))
    | some (.tables elements) => some (parent.put name (.tables (elements ++ [[]])))
    | some _ => none) path

/-- Adds a field to the table that was announced last. -/
def addFieldUnder (announced path : List String) (name : String) (value : Toml)
    (table : TomlTable) : Option TomlTable :=
  table.change false (addField path name value) announced

end TomlTable

end RangeServer
