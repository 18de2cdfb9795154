import RangeServer.Json.Basic
import RangeServer.Text.Decimal

/-!
# Writing JSON

Compact JSON: no blanks outside texts. In texts the quote, the backslash and control characters are
escaped, five of the latter by a letter and the others by four hexadecimal digits.
-/

namespace RangeServer.Json

/-- A hexadecimal digit, small letters. -/
def hexDigit (value : Nat) : Char := Nat.digitChar value

/-- A character as it stands inside a text. -/
def escape (c : Char) : List Char :=
  if c = '"' then ['\\', '"']
  else if c = '\\' then ['\\', '\\']
  else if c = '\x08' then ['\\', 'b']
  else if c = '\t' then ['\\', 't']
  else if c = '\n' then ['\\', 'n']
  else if c = '\x0c' then ['\\', 'f']
  else if c = '\r' then ['\\', 'r']
  else if c.toNat < 0x20 then
    ['\\', 'u', '0', '0', hexDigit (c.toNat / 16), hexDigit (c.toNat % 16)]
  else [c]

/-- A text between quotes. -/
def quote (text : String) : List Char := '"' :: (text.toList.flatMap escape ++ ['"'])

/-- A numeral as it was read. -/
def numeralText (numeral : Numeral) : List Char :=
  (if numeral.negative then ['-'] else []) ++ numeral.whole ++
    (match numeral.fraction with
      | some digits => '.' :: digits
      | none => []) ++
    (match numeral.exponent with
      | some (negative, digits) => 'e' :: ((if negative then ['-'] else []) ++ digits)
      | none => [])

mutual

/-- The compact text of a value. -/
def print : Json → List Char
  | .null => ['n', 'u', 'l', 'l']
  | .boolean true => ['t', 'r', 'u', 'e']
  | .boolean false => ['f', 'a', 'l', 's', 'e']
  | .number numeral => numeralText numeral
  | .string value => quote value
  | .array items => '[' :: (printItems items ++ [']'])
  | .object fields => '\x7b' :: (printFields fields ++ ['\x7d'])

/-- The items of an array with commas between them. -/
def printItems : List Json → List Char
  | [] => []
  | [item] => print item
  | item :: next :: rest => print item ++ ',' :: printItems (next :: rest)

/-- The fields of an object with commas between them. -/
def printFields : List (String × Json) → List Char
  | [] => []
  | [(name, value)] => quote name ++ ':' :: print value
  | (name, value) :: next :: rest =>
    quote name ++ ':' :: (print value ++ ',' :: printFields (next :: rest))

end

/-- The compact text of a value. -/
def toText (value : Json) : String := String.ofList (print value)

/-- The number that stands for a natural number. -/
def ofNat (number : Nat) : Json := .number ⟨false, Decimal.digits number, none, none⟩

/-- A text, or null without one. -/
def ofOption : Option String → Json
  | some value => .string value
  | none => .null

end RangeServer.Json
