import RangeServer.Text.Decimal

/-!
# Timestamps

An instant with a fixed offset from universal time, its date in the proleptic Gregorian calendar,
and the two written forms that log lines use. A leap second is the last second of a minute with a
thousand million nanoseconds or more.
-/

namespace RangeServer

/-- A date of the proleptic Gregorian calendar. -/
structure CivilDate where
  year : Int
  month : Nat
  day : Nat
  deriving DecidableEq, Repr

/-- The date that is a number of days after the first of January 1970. Years are counted from
March, so that the leap day ends its year. -/
def CivilDate.ofDays (days : Int) : CivilDate :=
  let shifted := days + 719468
  let era := shifted / 146097
  let dayOfEra := (shifted % 146097).toNat
  let yearOfEra :=
    (dayOfEra - dayOfEra / 1460 + dayOfEra / 36524 - dayOfEra / 146096) / 365
  let dayOfYear := dayOfEra - (365 * yearOfEra + yearOfEra / 4 - yearOfEra / 100)
  let fifth := (5 * dayOfYear + 2) / 153
  let month := if fifth < 10 then fifth + 3 else fifth - 9
  { year := yearOfEra + era * 400 + (if month ≤ 2 then 1 else 0)
    month := month
    day := dayOfYear - (153 * fifth + 2) / 5 + 1 }

/-- Seconds and nanoseconds since the start of 1970, universal time, and the offset of the place in
seconds to the east. -/
structure Timestamp where
  seconds : Int
  nanos : Nat
  offset : Int
  deriving DecidableEq, Repr

namespace Timestamp

/-- The number of nanoseconds in a second. -/
def second : Nat := 1000000000

/-- Whether the calendar holds an instant: its year has at most six digits, only the last second of
a minute is stretched, and the offset is less than a day. -/
def isValid (time : Timestamp) : Bool :=
  -8334601228800 ≤ time.seconds && time.seconds ≤ 8210266876799 &&
    (time.nanos < second || (time.nanos < 2 * second && time.seconds % 60 == 59)) &&
    -86400 < time.offset && time.offset < 86400

/-- The seconds since the start of 1970 that the clocks of the place show. -/
def localSeconds (time : Timestamp) : Int := time.seconds + time.offset

/-- The date at the place. -/
def date (time : Timestamp) : CivilDate := CivilDate.ofDays (time.localSeconds / 86400)

/-- The seconds since midnight at the place. -/
def secondOfDay (time : Timestamp) : Nat := (time.localSeconds % 86400).toNat

/-- The hour, the minute and the second that clocks show; a leap second counts on. -/
def clock (time : Timestamp) : Nat × Nat × Nat :=
  (time.secondOfDay / 3600, time.secondOfDay / 60 % 60,
    time.secondOfDay % 60 + time.nanos / second)

/-- The nanoseconds within the second. -/
def fraction (time : Timestamp) : Nat := time.nanos % second

/-- A year: four digits, or a sign and at least four where four do not hold it. -/
def yearText (year : Int) : List Char :=
  if 0 ≤ year ∧ year ≤ 9999 then Decimal.padded 4 year.toNat
  else (if year < 0 then '-' else '+') :: Decimal.padded 4 year.natAbs

/-- The clock with colons. -/
def clockText (time : Timestamp) : List Char :=
  let (hour, minute, second) := time.clock
  Decimal.padded 2 hour ++ ':' :: (Decimal.padded 2 minute ++ ':' :: Decimal.padded 2 second)

/-- The offset in hours and minutes, to the nearest minute and with its sign. -/
def offsetText (time : Timestamp) (separator : List Char) : List Char :=
  let minutes := (time.offset.natAbs + 30) / 60
  (if time.offset < 0 then '-' else '+') ::
    (Decimal.padded 2 (minutes / 60) ++ separator ++ Decimal.padded 2 (minutes % 60))

/-- The short names of the months. -/
def monthNames : List (List Char) :=
  ["Jan", "Feb", "Mar", "Apr", "May", "Jun", "Jul", "Aug", "Sep", "Oct", "Nov", "Dec"].map
    String.toList

/-- The short name of a month. -/
def monthName (month : Nat) : List Char := (monthNames[month - 1]?).getD []

/-- The form of common log lines, `14/Nov/2023:22:13:20 +0000`. -/
def logText (time : Timestamp) : String :=
  let date := time.date
  String.ofList <|
    Decimal.padded 2 date.day ++ '/' :: (monthName date.month ++ '/' ::
      (yearText date.year ++ ':' :: (time.clockText ++ ' ' :: time.offsetText [])))

/-- The fraction of a second with three, six or nine digits; nothing for a whole second. -/
def fractionText (time : Timestamp) : List Char :=
  let nanos := time.fraction
  if nanos = 0 then []
  else if nanos % 1000000 = 0 then '.' :: Decimal.padded 3 (nanos / 1000000)
  else if nanos % 1000 = 0 then '.' :: Decimal.padded 6 (nanos / 1000)
  else '.' :: Decimal.padded 9 nanos

/-- The form of RFC 3339, `2023-11-14T22:13:20+00:00`. -/
def internetText (time : Timestamp) : String :=
  let date := time.date
  String.ofList <|
    yearText date.year ++ '-' :: (Decimal.padded 2 date.month ++ '-' ::
      (Decimal.padded 2 date.day ++ 'T' ::
        (time.clockText ++ time.fractionText ++ time.offsetText [':'])))

end Timestamp

end RangeServer
