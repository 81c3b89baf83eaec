import Gatehouse.Time.Duration

/-! Instants in the calendar.  An instant counts nanoseconds from the start of the year 1970 in
universal time.  `Date.ofDays` finds the day of the Gregorian calendar, before and after that year
alike, and `Instant.text` writes an instant as a date, a time of day and the letter Z. -/

namespace Gatehouse.Time

/-- A day of the Gregorian calendar. -/
structure Date where
  year : Int
  month : Nat
  day : Nat
  deriving DecidableEq, Repr

namespace Date

/-- The day so many days after the first of January 1970.  Years are counted from March, so the
day that leap years add is the last one; 146097 days make up 400 years. -/
def ofDays (days : Int) : Date :=
  let shifted := days + 719468
  let era := shifted.fdiv 146097
  let dayOfEra := (shifted.fmod 146097).toNat
  let yearOfEra := (dayOfEra - dayOfEra / 1460 + dayOfEra / 36524 - dayOfEra / 146096) / 365
  let dayOfYear := dayOfEra - (365 * yearOfEra + yearOfEra / 4 - yearOfEra / 100)
  let month := (5 * dayOfYear + 2) / 153
  let day := dayOfYear - (153 * month + 2) / 5 + 1
  if month < 10 then ⟨yearOfEra + era * 400, month + 3, day⟩
  else ⟨yearOfEra + era * 400 + 1, month - 9, day⟩

/-- A number of two digits. -/
def two (n : Nat) : String := String.ofList (Duration.padded 2 n)

/-- A year in four digits; one that has more, or lies before the year 0, has a sign. -/
def yearText (year : Int) : String :=
  let digits := String.ofList (Duration.padded 4 year.natAbs)
  if year < 0 then "-" ++ digits else if 9999 < year then "+" ++ digits else digits

def text (d : Date) : String := yearText d.year ++ "-" ++ two d.month ++ "-" ++ two d.day

end Date

/-- So many nanoseconds after the start.  Every minute has sixty seconds: the values that a calendar
may have for a leap second, with more than a whole second behind the last one, are left out. -/
structure Instant where
  nanos : Int
  deriving DecidableEq, Repr

namespace Instant

/-- So many microseconds after the start. -/
def ofMicros (n : Int) : Instant := ⟨n * 1000⟩

/-- The fraction of a second in three, six or nine digits, whichever are enough, or none. -/
def fractionText (nanos : Nat) : String :=
  if nanos == 0 then ""
  else if nanos % 1000000 == 0 then String.ofList ('.' :: Duration.padded 3 (nanos / 1000000))
  else if nanos % 1000 == 0 then String.ofList ('.' :: Duration.padded 6 (nanos / 1000))
  else String.ofList ('.' :: Duration.padded 9 nanos)

def text (t : Instant) : String :=
  let seconds := t.nanos.fdiv 1000000000
  let fraction := (t.nanos.fmod 1000000000).toNat
  let date := Date.ofDays (seconds.fdiv 86400)
  let time := (seconds.fmod 86400).toNat
  date.text ++ "T" ++ Date.two (time / 3600) ++ ":" ++ Date.two (time / 60 % 60) ++ ":" ++
    Date.two (time % 60) ++ fractionText fraction ++ "Z"

end Instant

end Gatehouse.Time
