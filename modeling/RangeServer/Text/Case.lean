import RangeServer.Text.CaseTable

/-!
# Small letters

Text with its capitals made small throughout Unicode. A capital sigma has two small forms: the one
for the end of a word stands after a letter with case and before no such letter, characters that are
passed over aside.
-/

namespace RangeServer.Case

/-- Whether a character lies in one of the ranges. -/
def inRanges (ranges : List (Nat × Nat)) (c : Char) : Bool :=
  ranges.any fun range => range.1 ≤ c.toNat && c.toNat ≤ range.2

/-- Whether a character has case. -/
def isCased (c : Char) : Bool := inRanges casedRanges c

/-- Whether a character is passed over when the neighbours of a letter are looked at. -/
def isIgnorable (c : Char) : Bool := inRanges ignorableRanges c

/-- Whether a capital belongs to a run. -/
def Run.covers (run : Run) (c : Char) : Bool :=
  run.first ≤ c.toNat && c.toNat ≤ run.last && (c.toNat - run.first) % run.stride == 0

/-- The small form of a character on its own. -/
def lowerChar (c : Char) : List Char :=
  if c.toNat < 0x80 then [c.toLower]
  else if c.toNat = 0x130 then ['i', Char.ofNat 0x307]
  else match runs.find? (·.covers c) with
    | some run => [Char.ofNat (c.toNat + run.shift).toNat]
    | none => [c]

/-- The capital sigma. -/
def sigma : Char := Char.ofNat 0x3A3

/-- Whether the first character that is not passed over has case. -/
def leadsToCased (text : List Char) : Bool :=
  match text.dropWhile isIgnorable with
  | c :: _ => isCased c
  | [] => false

/-- The small form of a text, given the characters before it from the last to the first. -/
def lowerAfter : List Char → List Char → List Char
  | _, [] => []
  | before, c :: rest =>
    let small :=
      if c = sigma then
        [Char.ofNat (if leadsToCased before && !leadsToCased rest then 0x3C2 else 0x3C3)]
      else lowerChar c
    small ++ lowerAfter (c :: before) rest

/-- A text with its capitals made small. -/
def lower (text : String) : String := String.ofList (lowerAfter [] text.toList)

end RangeServer.Case
