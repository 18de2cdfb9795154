import RangeServer.Text.Case
import RangeServer.Text.PrintableTable

/-!
# Quoted text

Text between quotes with everything visible: quotes and backslashes behind a backslash, the common
control characters as letters, and all other characters without a printed form of their own as code
points.
-/

namespace RangeServer.Quoted

/-- Whether a character is shown as it is. -/
def isShown (c : Char) : Bool :=
  if c.toNat < 0x7F then 0x20 ≤ c.toNat
  else !Case.inRanges Printable.extendingRanges c && !Case.inRanges Printable.hiddenRanges c

/-- A character as it stands between the quotes. -/
def escape (c : Char) : List Char :=
  if c = '\x00' then ['\\', '0']
  else if c = '\t' then ['\\', 't']
  else if c = '\r' then ['\\', 'r']
  else if c = '\n' then ['\\', 'n']
  else if c = '\\' then ['\\', '\\']
  else if c = '"' then ['\\', '"']
  else if isShown c then [c]
  else ['\\', 'u', '\x7b'] ++ Nat.toDigits 16 c.toNat ++ ['\x7d']

/-- A text between quotes. -/
def quote (text : String) : String :=
  String.ofList ('"' :: (text.toList.flatMap escape ++ ['"']))

end RangeServer.Quoted
