import RangeServer.Toml.Scalar
import RangeServer.Toml.Table

/-!
# Reading TOML

A reader of TOML documents. Arrays may run over many lines, inline tables stay on theirs; how deep
both nest and how many parts a dotted key has is bounded.
-/

namespace RangeServer.Toml

open TomlScalar

/-- How deep arrays and inline tables may nest. -/
def maxDepth : Nat := 79

/-- How many parts a dotted key may have. -/
def maxKeyParts : Nat := 79

/-- Whether a character may stand in a key without quotes. -/
def isBareKeyChar (c : Char) : Bool := c.isAlphanum || c == '_' || c == '-'

/-- Takes one part of a key. -/
def keyPart : List Char → Option (String × List Char)
  | [] => none
  | c :: rest =>
    if c = '"' ∨ c = '\x27' then lineText (c :: rest)
    else if isBareKeyChar c then
      some (.ofList ((c :: rest).takeWhile isBareKeyChar), (c :: rest).dropWhile isBareKeyChar)
    else none

/-- Takes the parts of a key with the blanks around them, at most `count`. -/
def keyParts : Nat → List Char → Option (List String × List Char)
  | 0, _ => none
  | count + 1, text => do
    let (first, rest) ← keyPart (skipSpace text)
    match skipSpace rest with
    | '.' :: rest =>
      let (more, rest) ← keyParts count rest
      return (first :: more, rest)
    | rest => return ([first], rest)

/-- Takes a key: the parts before the last, and the last. -/
def key (text : List Char) : Option ((List String × String) × List Char) := do
  let (parts, rest) ← keyParts maxKeyParts text
  let last ← parts.getLast?
  return ((parts.dropLast, last), rest)

/-- Skips blanks, line ends and whole comments; `inComment` tells whether a comment has begun. -/
def skipLines : Bool → List Char → Option (List Char)
  | _, '\n' :: rest => skipLines false rest
  | _, '\r' :: '\n' :: rest => skipLines false rest
  | true, [] => none
  | true, c :: rest => if isCommentChar c then skipLines true rest else none
  | false, [] => some []
  | false, c :: rest =>
    if isSpace c then skipLines false rest
    else if c = '#' then skipLines true rest
    else if c = '\r' then none
    else some (c :: rest)

/-- Takes the items of an array from where one may start to its closing bracket; `item` takes one
item, and `fuel` bounds their number. -/
def arrayItems (item : List Char → Option (Toml × List Char)) :
    Nat → List Char → Option (List Toml × List Char)
  | 0, _ => none
  | fuel + 1, text => do
    match ← skipLines false text with
    | ']' :: rest => return ([], rest)
    | text =>
      let (first, rest) ← item text
      match ← skipLines false rest with
      | ']' :: rest => return ([first], rest)
      | ',' :: rest =>
        let (more, rest) ← arrayItems item fuel rest
        return (first :: more, rest)
      | _ => none

/-- Takes a field: a key, an equals sign and a value. -/
def field (item : List Char → Option (Toml × List Char)) (text : List Char) :
    Option ((List String × String × Toml) × List Char) := do
  let ((path, name), rest) ← key text
  match rest with
  | '=' :: rest =>
    let (value, rest) ← item (skipSpace rest)
    return ((path, name, value), rest)
  | _ => none

/-- Takes the fields of an inline table, of which there is at least one, and its closing brace. -/
def inlineFields (item : List Char → Option (Toml × List Char)) :
    Nat → TomlTable → List Char → Option (TomlTable × List Char)
  | 0, _, _ => none
  | fuel + 1, built, text => do
    let ((path, name, value), rest) ← field item text
    let grown ← built.addField path name value
    match skipSpace rest with
    | ',' :: rest => inlineFields item fuel grown rest
    | '\x7d' :: rest => return (grown, rest)
    | _ => none

/-- Takes the fields of an inline table and its closing brace. -/
def inlineTable (item : List Char → Option (Toml × List Char)) (text : List Char) :
    Option (TomlTable × List Char) :=
  match skipSpace text with
  | '\x7d' :: rest => some (.empty, rest)
  | text => inlineFields item (text.length + 1) .empty text

/-- Takes a value that nests at most `depth` arrays and inline tables. -/
def value : Nat → List Char → Option (Toml × List Char)
  | _, [] => none
  | _, 't' :: 'r' :: 'u' :: 'e' :: rest => some (.boolean true, rest)
  | _, 'f' :: 'a' :: 'l' :: 's' :: 'e' :: rest => some (.boolean false, rest)
  | 0, c :: rest => leaf c rest
  | depth + 1, '[' :: rest =>
    (arrayItems (value depth) (rest.length + 1) rest).map fun (items, rest) => (.array items, rest)
  | depth + 1, '\x7b' :: rest =>
    (inlineTable (value depth) rest).map fun (built, rest) => (built.toToml, rest)
  | _ + 1, c :: rest => leaf c rest
where
  /-- Takes a text, a number, a date or a time, given its first character. -/
  leaf (c : Char) (rest : List Char) : Option (Toml × List Char) :=
    if c = '"' ∨ c = '\x27' then
      (anyText (c :: rest)).map fun (value, rest) => (.string value, rest)
    else if c = 'i' ∨ c = 'n' then specialReal false (c :: rest)
    else if c = '+' ∨ c = '-' ∨ c.isDigit then numberOrMoment (c :: rest)
    else none

/-- Takes what may follow a field or an announcement on its line, with the end of the line. -/
def lineRest (text : List Char) : Option (List Char) :=
  match skipSpace text with
  | [] => some []
  | '#' :: rest => endOfLine (rest.dropWhile isCommentChar)
  | rest => endOfLine rest
where
  /-- Takes the end of a line or of the document. -/
  endOfLine : List Char → Option (List Char)
    | [] => some []
    | rest => lineEnd? rest

/-- Takes a key in brackets and the rest of its line, given what closes it. -/
def announcement (closing : List Char) (text : List Char) :
    Option ((List String × String) × List Char) := do
  let (found, rest) ← key text
  if closing.isPrefixOf rest then
    return (found, ← lineRest (rest.drop closing.length))
  else none

/-- Takes the lines of a document from the start of one, adding to the table; `announced` is the
path of the table that was announced last. -/
def lines : Nat → List String → TomlTable → List Char → Option TomlTable
  | 0, _, _, _ => none
  | fuel + 1, announced, built, text =>
    match skipSpace text with
    | [] => some built
    | '#' :: rest => do
      lines fuel announced built (← lineRest ('#' :: rest))
    | '[' :: '[' :: rest => do
      let ((path, name), rest) ← announcement [']', ']'] rest
      lines fuel (path ++ [name]) (← built.announceNext path name) rest
    | '[' :: rest => do
      let ((path, name), rest) ← announcement [']'] rest
      lines fuel (path ++ [name]) (← built.announce path name) rest
    | c :: rest =>
      if c = '\n' ∨ c = '\r' then do
        lines fuel announced built (← lineEnd? (c :: rest))
      else do
        let ((path, name, value), rest) ← field (value maxDepth) (c :: rest)
        lines fuel announced (← built.addFieldUnder announced path name value) (← lineRest rest)

/-- The text without the mark of its encoding at its front. -/
def dropMark : List Char → List Char
  | '\uFEFF' :: rest => rest
  | text => text

/-- The table that a document spells. -/
def parse? (text : String) : Option Toml := do
  let text := dropMark text.toList
  let built ← lines (text.length + 1) [] .empty text
  return built.toToml

end RangeServer.Toml
