import RangeServer.Range.Window
import RangeServer.Text.Decimal

/-!
# Range headers

A header `bytes=first-last` or `bytes=first-` asks for one window. Offsets too long for a word count
as the largest word. A header of any other form asks for nothing, so the whole content is due.
-/

namespace RangeServer

/-- The offsets that a range header spells; without a last one it runs to the end. -/
structure RangeSpec where
  first : Nat
  last : Option Nat
  deriving DecidableEq, Repr

namespace RangeSpec

/-- One more digit of an offset, held at the largest word. -/
def pushDigit (offset : Nat) (digit : Char) : Nat :=
  min (min (offset * 10) maxWord + Decimal.digitValue digit) maxWord

/-- The offset that a numeral denotes, held at the largest word. -/
def readOffset? (run : List Char) : Option Nat :=
  if Decimal.isNumeral run then some (run.foldl pushDigit 0) else none

/-- The unit that range headers count in. -/
def unit : List Char := "bytes=".toList

/-- The offsets between the unit and the end of the header, parted by the first dash. -/
def readOffsets? (offsets : List Char) : Option RangeSpec :=
  match offsets.dropWhile (· != '-') with
  | [] => none
  | _ :: last => do
    let first ← readOffset? (offsets.takeWhile (· != '-'))
    if last.isEmpty then some ⟨first, none⟩ else some ⟨first, some (← readOffset? last)⟩

/-- The range that a header spells, if it has the form of one. -/
def read? (header : String) : Option RangeSpec :=
  let text := header.toList
  if unit.isPrefixOf text then readOffsets? (text.drop unit.length) else none

/-- The window of a range in content of the given length: a last offset past the end is cut to
the end, and a window that would end before it starts is unsatisfiable. -/
def resolve (spec : RangeSpec) (length : Nat) (policy : PastEndPolicy) : Checked RangeOutcome :=
  if length ≤ spec.first then .ok (policy.outcome length)
  else do
    let final ← Checked.sub length 1
    let last := match spec.last with
      | none => final
      | some last => min last final
    if last < spec.first then .ok .unsatisfiable else .ok (.part ⟨spec.first, last⟩)

end RangeSpec

/-- What a request with the given range header, if any, asks of content of the given length. -/
def RangeOutcome.ofHeader (header : Option String) (length : Nat) (policy : PastEndPolicy) :
    Checked RangeOutcome :=
  match header.bind RangeSpec.read? with
  | none => .ok .whole
  | some spec => spec.resolve length policy

end RangeServer
