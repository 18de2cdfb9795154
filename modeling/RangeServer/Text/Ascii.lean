/-!
# ASCII classes

The character classes that protocols define over ASCII alone: visible text, control characters and
the letters without case.
-/

namespace RangeServer.Ascii

/-- A text with its ASCII capitals made small; all other characters stay. -/
def lower (text : String) : String := text.map Char.toLower

/-- Whether two texts agree up to the case of ASCII letters. -/
def sameLetters (left right : String) : Bool := lower left == lower right

/-- Whether a character may stand in a token, such as a method or a header name. -/
def isTokenChar (c : Char) : Bool :=
  c.isAlphanum || "!#$%&\x27*+-.^_\x60|~".toList.contains c

/-- Whether a text is a token: not empty, and token characters throughout. -/
def isToken (text : String) : Bool := !text.toList.isEmpty && text.toList.all isTokenChar

/-- Whether a character is a control character other than the tab. -/
def isForbiddenControl (c : Char) : Bool := (c.toNat < 0x20 && c != '\t') || c.toNat == 0x7F

/-- Whether a byte may stand in a header value: no control character other than the tab. -/
def isFieldByte (byte : UInt8) : Bool := (0x20 ≤ byte || byte == 0x09) && byte != 0x7F

/-- Whether a byte is visible ASCII, a blank or a tab. -/
def isVisibleByte (byte : UInt8) : Bool := (0x20 ≤ byte && byte < 0x7F) || byte == 0x09

/-- The text of bytes that are visible ASCII, blanks and tabs throughout. -/
def visibleText? (bytes : List UInt8) : Option String :=
  if bytes.all isVisibleByte then some (String.ofList (bytes.map fun b => Char.ofNat b.toNat))
  else none

end RangeServer.Ascii
