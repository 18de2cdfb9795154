import RangeServer.Text.Decimal

/-!
# Dates and times

Readers of the dates and times of TOML. Each gives the normal text of what it read: a `T` between
date and time, a capital `Z`, at most nine digits of a second and no zeros at their end. A date or a
time in a document is read from the front of the text behind it; one that stands in a text of its
own is read as a whole, with wider bounds for the hour and the offset.
-/

namespace RangeServer.TomlMoment

/-- Takes exactly `count` digits. -/
def digits (count : Nat) (text : List Char) : Option (List Char × List Char) :=
  let run := text.take count
  if run.length = count ∧ run.all Char.isDigit then some (run, text.drop count) else none

/-- Takes exactly `count` digits of a number within bounds. -/
def bounded (count low high : Nat) (text : List Char) : Option (List Char × List Char) := do
  let (run, rest) ← digits count text
  if low ≤ Decimal.value run ∧ Decimal.value run ≤ high then some (run, rest) else none

/-- Takes one given character. -/
def char (expected : Char) : List Char → Option (List Char)
  | c :: rest => if c == expected then some rest else none
  | [] => none

/-- The number of days of a month. -/
def daysIn (year month : Nat) : Nat :=
  if month = 2 then
    if year % 4 = 0 ∧ (year % 100 ≠ 0 ∨ year % 400 = 0) then 29 else 28
  else if month = 4 ∨ month = 6 ∨ month = 9 ∨ month = 11 then 30
  else 31

/-- Takes a date. -/
def date (text : List Char) : Option (List Char × List Char) := do
  let (year, rest) ← digits 4 text
  let (month, rest) ← bounded 2 1 12 (← char '-' rest)
  let (day, rest) ← bounded 2 1 31 (← char '-' rest)
  if daysIn (Decimal.value year) (Decimal.value month) < Decimal.value day then none
  else some (year ++ '-' :: (month ++ '-' :: day), rest)

/-- The digits of a fraction, cut to nine and without zeros at their end, behind a point. -/
def fractionText (run : List Char) : List Char :=
  match ((run.take 9).reverse.dropWhile (· == '0')).reverse with
  | [] => []
  | digits => '.' :: digits

/-- Takes the fraction of a second, if there is one. -/
def fraction : List Char → Option (List Char × List Char)
  | '.' :: rest =>
    let run := rest.takeWhile Char.isDigit
    if run.isEmpty then none else some (fractionText run, rest.dropWhile Char.isDigit)
  | text => some ([], text)

/-- Takes a time of day, up to a last hour. -/
def timeUpTo (lastHour : Nat) (text : List Char) : Option (List Char × List Char) := do
  let (hour, rest) ← bounded 2 0 lastHour text
  let (minute, rest) ← bounded 2 0 59 (← char ':' rest)
  let (second, rest) ← bounded 2 0 60 (← char ':' rest)
  let (fraction, rest) ← fraction rest
  return (hour ++ ':' :: (minute ++ ':' :: (second ++ fraction)), rest)

/-- Takes a time of day of a document. -/
def time (text : List Char) : Option (List Char × List Char) := timeUpTo 23 text

/-- The text of an offset of so many minutes; an offset of nothing is positive. -/
def offsetText (sign : Char) (minutes : Nat) : List Char :=
  (if minutes = 0 then '+' else sign) ::
    (Decimal.padded 2 (minutes / 60) ++ ':' :: Decimal.padded 2 (minutes % 60))

/-- Takes an offset from universal time, if there is one, with bounds for its hours and minutes. -/
def offsetUpTo (lastHour lastMinute : Nat) : List Char → Option (List Char × List Char)
  | c :: rest =>
    if c = 'Z' ∨ c = 'z' then some (['Z'], rest)
    else if c = '+' ∨ c = '-' then do
      let (hour, rest) ← bounded 2 0 lastHour rest
      let (minute, rest) ← bounded 2 0 lastMinute (← char ':' rest)
      let minutes := Decimal.value hour * 60 + Decimal.value minute
      if 24 * 60 < minutes then none else some (offsetText c minutes, rest)
    else some ([], c :: rest)
  | [] => some ([], [])

/-- Takes an offset of a document, if there is one. -/
def offset (text : List Char) : Option (List Char × List Char) := offsetUpTo 23 59 text

/-- Takes the time and the offset behind a date, if there are any. -/
def timeAfterDate : List Char → Option (List Char × List Char)
  | c :: rest =>
    if c = 'T' ∨ c = 't' ∨ c = ' ' then
      match time rest with
      | some (time, rest) => do
        let (offset, rest) ← offset rest
        return ('T' :: (time ++ offset), rest)
      | none => some ([], c :: rest)
    else some ([], c :: rest)
  | [] => some ([], [])

/-- Takes a date, a time or both. -/
def moment (text : List Char) : Option (List Char × List Char) :=
  match date text with
  | some (date, rest) => do
    let (more, rest) ← timeAfterDate rest
    return (date ++ more, rest)
  | none => time text

/-- The time and the offset that all of the text behind a date spells; it may be empty. -/
def wholeAfterDate? : List Char → Option (List Char)
  | [] => some []
  | c :: rest =>
    if c = 'T' ∨ c = 't' ∨ c = ' ' then do
      let (time, rest) ← timeUpTo 24 rest
      let (offset, rest) ← offsetUpTo 99 99 rest
      if rest.isEmpty then some ('T' :: (time ++ offset)) else none
    else none

/-- The date, the time or both that a whole text spells. -/
def whole? (text : List Char) : Option (List Char) :=
  if text[2]? = some ':' then do
    let (time, rest) ← timeUpTo 24 text
    if rest.isEmpty then some time else none
  else do
    let (date, rest) ← date text
    return date ++ (← wholeAfterDate? rest)

end RangeServer.TomlMoment
