/-!
# Moments

A point in time as seconds and nanoseconds, and its written form in Universal Time. Written moments
of the years 0 to 9999 have one width, so they sort as text the way they sort in time.
-/

namespace Lemmata

structure Moment where
  /-- Seconds since the start of 1970. -/
  second : Int
  /-- Nanoseconds of that second; a leap second counts on to two thousand million. -/
  nano : Nat := 0
deriving DecidableEq, Repr

/-! ## The calendar -/

structure Date where
  year : Int
  month : Nat
  day : Nat
deriving DecidableEq, Repr

namespace Date

/-- Years are counted from March here, so that a leap day is the last day of its year; 400 years
have 146097 days. -/
def ofDays (days : Int) : Date :=
  let shifted := days + 719468
  let era := shifted.fdiv 146097
  let dayOfEra := (shifted - era * 146097).toNat
  let yearOfEra :=
    (dayOfEra - dayOfEra / 1460 + dayOfEra / 36524 - dayOfEra / 146096) / 365
  let dayOfYear := dayOfEra - (365 * yearOfEra + yearOfEra / 4 - yearOfEra / 100)
  let monthFromMarch := (5 * dayOfYear + 2) / 153
  let month := if monthFromMarch < 10 then monthFromMarch + 3 else monthFromMarch - 9
  { year := yearOfEra + era * 400 + if month ≤ 2 then 1 else 0
    month
    day := dayOfYear - (153 * monthFromMarch + 2) / 5 + 1 }

end Date

namespace Moment

def secondsPerDay : Nat := 86400

/-- The calendar reaches from the year -262143 to the year 262142. -/
def least : Int := -8334601228800

def greatest : Int := 8210266876799

def isInCalendar (m : Moment) : Bool :=
  decide (least ≤ m.second ∧ m.second ≤ greatest)

def date (m : Moment) : Date :=
  .ofDays (m.second.fdiv secondsPerDay)

def secondOfDay (m : Moment) : Nat :=
  (m.second.fmod secondsPerDay).toNat

/-! ## The written form -/

def digits (width n : Nat) : List Char :=
  let found := Nat.toDigits 10 n
  List.replicate (width - found.length) '0' ++ found

/-- Years of other than four digits have a sign. -/
def yearText (year : Int) : List Char :=
  if 0 ≤ year ∧ year ≤ 9999 then digits 4 year.toNat
  else (if year < 0 then '-' else '+') :: digits 4 year.natAbs

/-- The whole seconds of the minute; a leap second is the sixty-first. -/
def secondOfMinute (m : Moment) : Nat :=
  m.secondOfDay % 60 + m.nano / 1000000000

def microsecond (m : Moment) : Nat :=
  m.nano % 1000000000 / 1000

/-- The date and the time to the second. -/
def secondChars (m : Moment) : List Char :=
  yearText m.date.year ++ '-' :: digits 2 m.date.month ++ '-' :: digits 2 m.date.day
    ++ 'T' :: digits 2 (m.secondOfDay / 3600) ++ ':' :: digits 2 (m.secondOfDay / 60 % 60)
    ++ ':' :: digits 2 m.secondOfMinute

def chars (m : Moment) : List Char :=
  m.secondChars ++ '.' :: digits 6 m.microsecond ++ ['Z']

/-- The date and the time to the microsecond. -/
def text (m : Moment) : String :=
  String.ofList m.chars

/-- The fraction of a second, with three, six or nine digits, or none if it is zero. -/
def fractionText (nano : Nat) : List Char :=
  if nano = 0 then []
  else if nano % 1000000 = 0 then '.' :: digits 3 (nano / 1000000)
  else if nano % 1000 = 0 then '.' :: digits 6 (nano / 1000)
  else '.' :: digits 9 nano

/-- The date and the time as exactly as needed, with the offset in digits. -/
def exactText (m : Moment) : String :=
  String.ofList (m.secondChars ++ fractionText (m.nano % 1000000000) ++ "+00:00".toList)

/-! ## Going back in time -/

/-- Spans of time are counted in milliseconds that fit 64 bits. -/
def greatestSpan : Int := 0x7fffffffffffffff / 1000

/-- The moment that many seconds later, if there is such a span and the calendar reaches there. -/
def addSeconds? (m : Moment) (seconds : Int) : Option Moment :=
  let sum : Moment := { m with second := m.second + seconds }
  if seconds.natAbs ≤ greatestSpan.natAbs ∧ sum.isInCalendar then some sum else none

/-- The moment that many days ago; a negative count is no days. -/
def daysAgo? (m : Moment) (days : Int) : Option Moment :=
  m.addSeconds? (-(max days 0 * secondsPerDay))

end Moment

end Lemmata
