import RangeServer.Number.Powers
import RangeServer.Text.Decimal
import RangeServer.Toml.Basic
import RangeServer.Toml.Moment

/-!
# TOML texts and numbers

Readers of the four kinds of texts and of the numbers of TOML. Each takes characters from the front
and gives what it read with the rest. Line ends within texts are normal line ends, and integers fit
64 bits with a sign.
-/

namespace RangeServer.TomlScalar

/-- The value of a hexadecimal digit. -/
def hexValue? (c : Char) : Option Nat :=
  if '0' ≤ c ∧ c ≤ '9' then some (c.toNat - '0'.toNat)
  else if 'a' ≤ c ∧ c ≤ 'f' then some (c.toNat - 'a'.toNat + 10)
  else if 'A' ≤ c ∧ c ≤ 'F' then some (c.toNat - 'A'.toNat + 10)
  else none

/-- Whether a character may stand between the parts of a line. -/
def isSpace (c : Char) : Bool := c == ' ' || c == '\t'

/-- The text without blanks at its front. -/
def skipSpace (text : List Char) : List Char := text.dropWhile isSpace

/-- Whether a character may stand in a comment. -/
def isCommentChar (c : Char) : Bool := c == '\t' || (0x20 ≤ c.toNat && c.toNat != 0x7F)

/-- Takes a line end. -/
def lineEnd? : List Char → Option (List Char)
  | '\n' :: rest => some rest
  | '\r' :: '\n' :: rest => some rest
  | _ => none

/-- The code point that hexadecimal digits denote, if it is a character. -/
def point? (run : List Char) : Option Char := do
  let digits ← run.mapM hexValue?
  let value := digits.foldl (fun value digit => value * 16 + digit) 0
  if value < 0xD800 ∨ (0xDFFF < value ∧ value < 0x110000) then some (Char.ofNat value) else none

/-- Takes a code point of `count` hexadecimal digits. -/
def escapedPoint (count : Nat) (text : List Char) : Option (Char × List Char) :=
  if text.length < count then none
  else (point? (text.take count)).map fun c => (c, text.drop count)

/-- Takes an escape, the backslash being taken already. -/
def escaped : List Char → Option (Char × List Char)
  | 'b' :: rest => some ('\x08', rest)
  | 't' :: rest => some ('\t', rest)
  | 'n' :: rest => some ('\n', rest)
  | 'f' :: rest => some ('\x0c', rest)
  | 'r' :: rest => some ('\r', rest)
  | '"' :: rest => some ('"', rest)
  | '\\' :: rest => some ('\\', rest)
  | 'u' :: rest => escapedPoint 4 rest
  | 'U' :: rest => escapedPoint 8 rest
  | _ => none

/-- Takes the rest of a text on one line with escapes, `fuel` bounding its characters. -/
def basicBody : Nat → List Char → Option (List Char × List Char)
  | _, [] => none
  | 0, _ => none
  | fuel + 1, c :: rest =>
    if c = '"' then some ([], rest)
    else if c = '\\' then do
      let (value, rest) ← escaped rest
      let (more, rest) ← basicBody fuel rest
      return (value :: more, rest)
    else if isCommentChar c then do
      let (more, rest) ← basicBody fuel rest
      return (c :: more, rest)
    else none

/-- Takes the rest of a text on one line without escapes. -/
def literalBody : List Char → Option (List Char × List Char)
  | [] => none
  | c :: rest =>
    if c = '\x27' then some ([], rest)
    else if isCommentChar c then do
      let (more, rest) ← literalBody rest
      return (c :: more, rest)
    else none

/-- Where a run of quotes leads in a text of many lines: one or two are part of the text, three to
five end it after the first few of them, and more are refused. -/
inductive QuoteRun where
  | inside (quotes rest : List Char)
  | final (quotes rest : List Char)
  | refused

/-- The run of quotes at the front of a text. -/
def quoteRun (quote : Char) (text : List Char) : QuoteRun :=
  let run := text.takeWhile (· == quote)
  let rest := text.dropWhile (· == quote)
  if run.length ≤ 2 then .inside run rest
  else if run.length ≤ 5 then .final (run.drop 3) rest
  else .refused

/-- The text without blanks and line ends at its front. -/
def skipBlankLines : List Char → List Char
  | '\r' :: '\n' :: rest => skipBlankLines rest
  | c :: rest => if isSpace c || c == '\n' then skipBlankLines rest else c :: rest
  | [] => []

/-- The text behind a backslash that ends its line: without blanks and line ends at its front. -/
def foldedLine? (text : List Char) : Option (List Char) :=
  (lineEnd? (skipSpace text)).map skipBlankLines

/-- Takes the rest of a text of many lines with escapes. -/
def manyBasicBody : Nat → List Char → Option (List Char × List Char)
  | _, [] => none
  | 0, _ => none
  | fuel + 1, c :: rest =>
    if c = '"' then
      match quoteRun '"' (c :: rest) with
      | .inside quotes rest => do
        let (more, rest) ← manyBasicBody fuel rest
        return (quotes ++ more, rest)
      | .final quotes rest => some (quotes, rest)
      | .refused => none
    else if c = '\\' then
      match foldedLine? rest with
      | some rest => manyBasicBody fuel rest
      | none => do
        let (value, rest) ← escaped rest
        let (more, rest) ← manyBasicBody fuel rest
        return (value :: more, rest)
    else
      match lineEnd? (c :: rest) with
      | some rest => do
        let (more, rest) ← manyBasicBody fuel rest
        return ('\n' :: more, rest)
      | none =>
        if isCommentChar c then do
          let (more, rest) ← manyBasicBody fuel rest
          return (c :: more, rest)
        else none

/-- Takes the rest of a text of many lines without escapes. -/
def manyLiteralBody : Nat → List Char → Option (List Char × List Char)
  | _, [] => none
  | 0, _ => none
  | fuel + 1, c :: rest =>
    if c = '\x27' then
      match quoteRun '\x27' (c :: rest) with
      | .inside quotes rest => do
        let (more, rest) ← manyLiteralBody fuel rest
        return (quotes ++ more, rest)
      | .final quotes rest => some (quotes, rest)
      | .refused => none
    else
      match lineEnd? (c :: rest) with
      | some rest => do
        let (more, rest) ← manyLiteralBody fuel rest
        return ('\n' :: more, rest)
      | none =>
        if isCommentChar c then do
          let (more, rest) ← manyLiteralBody fuel rest
          return (c :: more, rest)
        else none

/-- The text without a line end at its front. -/
def dropLineEnd (text : List Char) : List Char := (lineEnd? text).getD text

/-- Takes a text on one line. -/
def lineText : List Char → Option (String × List Char)
  | '"' :: rest => (basicBody (rest.length + 1) rest).map fun (body, rest) => (.ofList body, rest)
  | '\x27' :: rest => (literalBody rest).map fun (body, rest) => (.ofList body, rest)
  | _ => none

/-- Takes a text of any kind. -/
def anyText (text : List Char) : Option (String × List Char) :=
  match text with
  | '"' :: '"' :: '"' :: rest =>
    let rest := dropLineEnd rest
    (manyBasicBody (rest.length + 1) rest).map fun (body, rest) => (.ofList body, rest)
  | '\x27' :: '\x27' :: '\x27' :: rest =>
    let rest := dropLineEnd rest
    (manyLiteralBody (rest.length + 1) rest).map fun (body, rest) => (.ofList body, rest)
  | _ => lineText text

/-- Takes the rest of a run of digits in which single underscores may part the digits. -/
def moreDigits (isDigit : Char → Bool) : List Char → List Char × List Char
  | '_' :: c :: rest =>
    if isDigit c then
      let (more, rest) := moreDigits isDigit rest
      (c :: more, rest)
    else ([], '_' :: c :: rest)
  | c :: rest =>
    if isDigit c then
      let (more, rest) := moreDigits isDigit rest
      (c :: more, rest)
    else ([], c :: rest)
  | [] => ([], [])

/-- Takes a run of digits that starts with one; the digits without underscores. -/
def digitRun (isDigit : Char → Bool) : List Char → Option (List Char × List Char)
  | c :: rest =>
    if isDigit c then
      let (more, rest) := moreDigits isDigit rest
      some (c :: more, rest)
    else none
  | [] => none

/-- Takes a sign, if there is one: whether it is a minus. -/
def sign : List Char → Bool × List Char
  | '-' :: rest => (true, rest)
  | '+' :: rest => (false, rest)
  | text => (false, text)

/-- Takes the digits of a decimal integer: a zero alone, or digits that do not start with one. -/
def wholeDigits : List Char → Option (List Char × List Char)
  | '0' :: rest => some (['0'], rest)
  | text => digitRun Char.isDigit text

/-- The integer with a sign and a size, if 64 bits hold it. -/
def integer? (negative : Bool) (size : Nat) : Option Toml :=
  if negative then
    if size ≤ Word.signedBound64 then some (.integer (-size)) else none
  else if size < Word.signedBound64 then some (.integer size) else none

/-- Takes an integer to a base, what announces the base being taken already. -/
def basedInteger (base : Nat) (text : List Char) : Option (Toml × List Char) := do
  let isDigit := fun c => match hexValue? c with
    | some value => value < base
    | none => false
  let (run, rest) ← digitRun isDigit text
  let size := run.foldl (fun value c => value * base + (hexValue? c).getD 0) 0
  return (← integer? false size, rest)

/-- Takes an integer. -/
def integer (text : List Char) : Option (Toml × List Char) :=
  match text with
  | '0' :: 'x' :: rest => basedInteger 16 rest
  | '0' :: 'o' :: rest => basedInteger 8 rest
  | '0' :: 'b' :: rest => basedInteger 2 rest
  | _ => do
    let (negative, rest) := sign text
    let (run, rest) ← wholeDigits rest
    return (← integer? negative (Decimal.value run), rest)

/-- Takes the exponent of a number, if there is one. -/
def exponent (text : List Char) : Option (Option Int × List Char) :=
  match text with
  | [] => some (none, [])
  | c :: rest =>
    if c = 'e' ∨ c = 'E' then do
      let (negative, rest) := sign rest
      let (run, rest) ← digitRun Char.isDigit rest
      let size : Int := Decimal.value run
      return (some (if negative then -size else size), rest)
    else some (none, text)

/-- Takes the digits behind the point of a number, if there is a point. -/
def fraction : List Char → Option (Option (List Char) × List Char)
  | '.' :: rest => do
    let (run, rest) ← digitRun Char.isDigit rest
    return (some run, rest)
  | text => some (none, text)

/-- Takes the words for infinity and for the undefined number. -/
def specialReal (negative : Bool) : List Char → Option (Toml × List Char)
  | 'i' :: 'n' :: 'f' :: rest => some (.real (.infinite negative), rest)
  | 'n' :: 'a' :: 'n' :: rest => some (.real .undefined, rest)
  | _ => none

/-- A number read from its parts; one that is too large is refused unless it is negative. -/
def realOf? (negative : Bool) (whole : List Char) (fraction : Option (List Char))
    (exponent : Option Int) : Option Toml :=
  let places := fraction.getD []
  let value := Binary64.ofDecimal negative (Decimal.value (whole ++ places))
    (exponent.getD 0 - places.length)
  if value = .infinite false then none else some (.real value)

/-- Takes a number with a point, an exponent or both. -/
def real (text : List Char) : Option (Toml × List Char) := do
  let (negative, rest) := sign text
  match specialReal negative rest with
  | some found => some found
  | none =>
    let (whole, rest) ← wholeDigits rest
    let (fraction, rest) ← fraction rest
    let (exponent, rest) ← exponent rest
    if fraction.isNone ∧ exponent.isNone then none
    else return (← realOf? negative whole fraction exponent, rest)

/-- Takes a date, a time or a number. -/
def numberOrMoment (text : List Char) : Option (Toml × List Char) :=
  match TomlMoment.moment text with
  | some (moment, rest) => some (.moment (.ofList moment), rest)
  | none =>
    match real text with
    | some found => some found
    | none => integer text

end RangeServer.TomlScalar
