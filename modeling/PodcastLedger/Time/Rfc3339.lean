import PodcastLedger.Time.Instant

/-!
# Written instants

An instant in the form `2017-07-14T02:40:00.123456Z`. The fraction has three, six or nine digits,
the fewest that are exact, and is left out if it is zero. A leap second is the second 60.
-/

namespace PodcastLedger

/-- A day of the Gregorian calendar. -/
structure Date where
  year : Int
  month : Nat
  day : Nat
  deriving DecidableEq, Repr

namespace Date

/-- The date of a day counted from the start of 1970. Years are counted from March in cycles of 400
years, so that a leap day is the last of its year. -/
def ofDays (days : Int) : Date :=
  let shifted := days + 719468
  let cycle := shifted / 146097
  let dayOfCycle := (shifted % 146097).toNat
  -- Without the leap days of the years before, every year has 365 days.
  let leapDays := dayOfCycle / 1460 - dayOfCycle / 36524 + dayOfCycle / 146096
  let yearOfCycle := (dayOfCycle - leapDays) / 365
  let dayOfYear := dayOfCycle - (365 * yearOfCycle + yearOfCycle / 4 - yearOfCycle / 100)
  let monthFromMarch := (5 * dayOfYear + 2) / 153
  let month := if monthFromMarch < 10 then monthFromMarch + 3 else monthFromMarch - 9
  { year := cycle * 400 + yearOfCycle + if month ≤ 2 then 1 else 0
    month
    day := dayOfYear - (153 * monthFromMarch + 2) / 5 + 1 }

end Date

namespace Text

/-- A number in decimal with zeros in front up to the given width. -/
def padded (width number : Nat) : String :=
  let digits := toString number
  "".pushn '0' (width - digits.length) ++ digits

end Text

namespace Date

/-- Years of the first ten thousand have four digits, all others a sign and at least four. -/
def yearText (year : Int) : String :=
  if year < 0 then "-" ++ Text.padded 4 year.natAbs
  else if year < 10000 then Text.padded 4 year.natAbs
  else "+" ++ Text.padded 4 year.natAbs

/-- The written form of a date. -/
def toText (date : Date) : String :=
  yearText date.year ++ "-" ++ Text.padded 2 date.month ++ "-" ++ Text.padded 2 date.day

end Date

namespace Instant

/-- The written form of a fraction of a second. -/
def fractionText (nanos : Nat) : String :=
  if nanos = 0 then ""
  else if nanos % 1000000 = 0 then "." ++ Text.padded 3 (nanos / 1000000)
  else if nanos % 1000 = 0 then "." ++ Text.padded 6 (nanos / 1000)
  else "." ++ Text.padded 9 nanos

/-- The written form of an instant in Universal Time. -/
def toText (instant : Instant) : String :=
  let secondOfDay := (instant.seconds % 86400).toNat
  let second := secondOfDay % 60 + instant.nanos / 1000000000
  (Date.ofDays (instant.seconds / 86400)).toText ++ "T" ++
    Text.padded 2 (secondOfDay / 3600) ++ ":" ++ Text.padded 2 (secondOfDay / 60 % 60) ++ ":" ++
    Text.padded 2 second ++ fractionText (instant.nanos % 1000000000) ++ "Z"

end Instant

end PodcastLedger
