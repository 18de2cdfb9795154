import RangeServer.Json.Basic

/-!
# Reading JSON

A reader of RFC 8259 texts. Each part takes characters from the front and gives what it read with
the rest. Nesting is bounded; a control character in a text, an escaped half of a surrogate pair
without its other half, a leading zero and anything after the value are refused.
-/

namespace RangeServer.Json

/-- Whether a character may stand between the parts of a value. -/
def isSpace (c : Char) : Bool := c == ' ' || c == '\t' || c == '\n' || c == '\r'

/-- The text without blanks at its front. -/
def skipSpace (text : List Char) : List Char := text.dropWhile isSpace

/-- The value of a hexadecimal digit. -/
def hexValue? (c : Char) : Option Nat :=
  if '0' ≤ c ∧ c ≤ '9' then some (c.toNat - '0'.toNat)
  else if 'a' ≤ c ∧ c ≤ 'f' then some (c.toNat - 'a'.toNat + 10)
  else if 'A' ≤ c ∧ c ≤ 'F' then some (c.toNat - 'A'.toNat + 10)
  else none

/-- Takes four hexadecimal digits. -/
def hexUnit : List Char → Option (Nat × List Char)
  | a :: b :: c :: d :: rest => do
    let value := (((← hexValue? a) * 16 + (← hexValue? b)) * 16 + (← hexValue? c)) * 16 +
      (← hexValue? d)
    return (value, rest)
  | _ => none

/-- Takes the digits of an escaped code point; a code point past U+FFFF is two escapes. -/
def escapedPoint (text : List Char) : Option (Char × List Char) := do
  let (high, rest) ← hexUnit text
  if 0xDC00 ≤ high ∧ high ≤ 0xDFFF then
    none
  if 0xD800 ≤ high ∧ high ≤ 0xDBFF then
    match rest with
    | '\\' :: 'u' :: rest =>
      let (low, rest) ← hexUnit rest
      if 0xDC00 ≤ low ∧ low ≤ 0xDFFF then
        return (Char.ofNat (0x10000 + (high - 0xD800) * 0x400 + (low - 0xDC00)), rest)
      else none
    | _ => none
  else return (Char.ofNat high, rest)

/-- Takes an escape, the backslash being taken already. -/
def escaped : List Char → Option (Char × List Char)
  | '"' :: rest => some ('"', rest)
  | '\\' :: rest => some ('\\', rest)
  | '/' :: rest => some ('/', rest)
  | 'b' :: rest => some ('\x08', rest)
  | 'f' :: rest => some ('\x0c', rest)
  | 'n' :: rest => some ('\n', rest)
  | 'r' :: rest => some ('\r', rest)
  | 't' :: rest => some ('\t', rest)
  | 'u' :: rest => escapedPoint rest
  | _ => none

/-- Takes the characters of a text and its closing quote, `fuel` bounding their number. -/
def textBody : Nat → List Char → Option (List Char × List Char)
  | _, [] => none
  | 0, _ => none
  | fuel + 1, c :: rest =>
    if c = '"' then some ([], rest)
    else if c = '\\' then do
      let (value, rest) ← escaped rest
      let (more, rest) ← textBody fuel rest
      return (value :: more, rest)
    else if c.toNat < 0x20 then none
    else do
      let (more, rest) ← textBody fuel rest
      return (c :: more, rest)

/-- Takes a text, the opening quote being taken already. -/
def textAfterQuote (text : List Char) : Option (String × List Char) :=
  (textBody (text.length + 1) text).map fun (value, rest) => (String.ofList value, rest)

/-- Takes the digits before the point: a zero alone or digits that do not start with one. -/
def wholeDigits (text : List Char) : Option (List Char × List Char) :=
  let run := text.takeWhile Char.isDigit
  match run with
  | [] => none
  | '0' :: _ :: _ => none
  | _ => some (run, text.dropWhile Char.isDigit)

/-- Takes at least one digit. -/
def someDigits (text : List Char) : Option (List Char × List Char) :=
  let run := text.takeWhile Char.isDigit
  if run.isEmpty then none else some (run, text.dropWhile Char.isDigit)

/-- Takes the point and the digits after it, if there is a point. -/
def fractionPart : List Char → Option (Option (List Char) × List Char)
  | '.' :: rest => do
    let (digits, rest) ← someDigits rest
    return (some digits, rest)
  | text => some (none, text)

/-- Takes the sign of an exponent, if there is one. -/
def exponentSign : List Char → Bool × List Char
  | '-' :: rest => (true, rest)
  | '+' :: rest => (false, rest)
  | text => (false, text)

/-- Takes an exponent, if there is one. -/
def exponentPart (text : List Char) : Option (Option (Bool × List Char) × List Char) :=
  match text with
  | [] => some (none, [])
  | c :: rest =>
    if c = 'e' ∨ c = 'E' then do
      let (negative, rest) := exponentSign rest
      let (digits, rest) ← someDigits rest
      return (some (negative, digits), rest)
    else some (none, text)

/-- Takes a number, its sign being taken already. -/
def unsigned (negative : Bool) (text : List Char) : Option (Json × List Char) := do
  let (whole, rest) ← wholeDigits text
  let (fraction, rest) ← fractionPart rest
  let (exponent, rest) ← exponentPart rest
  return (.number ⟨negative, whole, fraction, exponent⟩, rest)

/-- Takes a given word. -/
def word (expected : List Char) (value : Json) (text : List Char) : Option (Json × List Char) :=
  if expected.isPrefixOf text then some (value, text.drop expected.length) else none

/-- Takes the items of an array after the first and its closing bracket, `fuel` bounding their
number; `item` takes one item. -/
def moreItems (item : List Char → Option (Json × List Char)) :
    Nat → List Char → Option (List Json × List Char)
  | 0, _ => none
  | fuel + 1, text =>
    match skipSpace text with
    | ']' :: rest => some ([], rest)
    | ',' :: rest => do
      let (first, rest) ← item (skipSpace rest)
      let (more, rest) ← moreItems item fuel rest
      return (first :: more, rest)
    | _ => none

/-- Takes the items of an array and its closing bracket. -/
def arrayBody (item : List Char → Option (Json × List Char)) (text : List Char) :
    Option (Json × List Char) :=
  match skipSpace text with
  | ']' :: rest => some (.array [], rest)
  | text => do
    let (first, rest) ← item text
    let (more, rest) ← moreItems item (rest.length + 1) rest
    return (.array (first :: more), rest)

/-- Takes a field: a name, a colon and a value. -/
def field (item : List Char → Option (Json × List Char)) :
    List Char → Option ((String × Json) × List Char)
  | '"' :: rest => do
    let (name, rest) ← textAfterQuote rest
    match skipSpace rest with
    | ':' :: rest =>
      let (value, rest) ← item (skipSpace rest)
      return ((name, value), rest)
    | _ => none
  | _ => none

/-- Takes the fields of an object after the first and its closing brace. -/
def moreFields (item : List Char → Option (Json × List Char)) :
    Nat → List Char → Option (List (String × Json) × List Char)
  | 0, _ => none
  | fuel + 1, text =>
    match skipSpace text with
    | '\x7d' :: rest => some ([], rest)
    | ',' :: rest => do
      let (first, rest) ← field item (skipSpace rest)
      let (more, rest) ← moreFields item fuel rest
      return (first :: more, rest)
    | _ => none

/-- Takes the fields of an object and its closing brace. -/
def objectBody (item : List Char → Option (Json × List Char)) (text : List Char) :
    Option (Json × List Char) :=
  match skipSpace text with
  | '\x7d' :: rest => some (.object [], rest)
  | text => do
    let (first, rest) ← field item text
    let (more, rest) ← moreFields item (rest.length + 1) rest
    return (.object (first :: more), rest)

/-- Takes a value that nests at most `depth` arrays and objects. -/
def value : Nat → List Char → Option (Json × List Char)
  | _, '"' :: rest => (textAfterQuote rest).map fun (value, rest) => (.string value, rest)
  | _, '-' :: rest => unsigned true rest
  | _, 'n' :: rest => word ['u', 'l', 'l'] .null rest
  | _, 't' :: rest => word ['r', 'u', 'e'] (.boolean true) rest
  | _, 'f' :: rest => word ['a', 'l', 's', 'e'] (.boolean false) rest
  | depth + 1, '[' :: rest => arrayBody (value depth) rest
  | depth + 1, '\x7b' :: rest => objectBody (value depth) rest
  | _, text => unsigned false text

/-- How deep arrays and objects may nest. -/
def maxDepth : Nat := 127

/-- The value that a text spells from its first to its last character, blanks aside. -/
def parse? (text : String) : Option Json := do
  let (value, rest) ← value maxDepth (skipSpace text.toList)
  if (skipSpace rest).isEmpty then some value else none

end RangeServer.Json
