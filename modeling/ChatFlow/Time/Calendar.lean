import ChatFlow.Text.Digit

/-!
# The calendar

Dates of the Gregorian calendar, carried back before its introduction, and days counted from the
first of January 1970. Years are counted from March, so that the leap day is the last of a year:
then the days before a month are the same in every year, and the days before a year follow from the
number of leap years before it.
-/

namespace ChatFlow

/-- A date. -/
structure Date where
  year : Int
  month : Nat
  day : Nat
  deriving DecidableEq, Repr

/-- The days of 400 years. -/
def daysOfEra : Int := 146097

/-- The days from the first of March of the year 0 to the first of January 1970. -/
def epochDay : Int := 719468

/-- The days of a year that begins in March before one of its months, counted from zero. -/
def daysBeforeMonth (month : Nat) : Nat := (153 * month + 2) / 5

/-- The number of a date: its days from the first of January 1970. -/
def Date.dayNumber (date : Date) : Int :=
  let year := if date.month ≤ 2 then date.year - 1 else date.year
  let month := (date.month + 9) % 12
  let ofEra := year % 400
  let dayOfYear : Int := daysBeforeMonth month + date.day - 1
  year / 400 * daysOfEra + ofEra * 365 + ofEra / 4 - ofEra / 100 + dayOfYear - epochDay

/-- The date of a number. -/
def Date.ofDayNumber (number : Int) : Date :=
  let days := number + epochDay
  let dayOfEra := days % daysOfEra
  let yearOfEra :=
    (dayOfEra - dayOfEra / 1460 + dayOfEra / 36524 - dayOfEra / 146096) / 365
  let dayOfYear := (dayOfEra - (365 * yearOfEra + yearOfEra / 4 - yearOfEra / 100)).toNat
  let month := (5 * dayOfYear + 2) / 153
  let year := days / daysOfEra * 400 + yearOfEra
  if month < 10 then ⟨year, month + 3, dayOfYear - daysBeforeMonth month + 1⟩
  else ⟨year + 1, month - 9, dayOfYear - daysBeforeMonth month + 1⟩

/-- The first year that dates may lie in. -/
def firstYear : Int := 1

/-- The last year that dates may lie in. -/
def lastYear : Int := 9999

/-- The number of the first day. -/
def firstDay : Int := (Date.mk firstYear 1 1).dayNumber

/-- The number of the day after the last. -/
def endDay : Int := (Date.mk (lastYear + 1) 1 1).dayNumber

/-- The names of the days, from the day of the week of the first of January 1970 on. -/
def weekdayNames : List String :=
  ["Thursday", "Friday", "Saturday", "Sunday", "Monday", "Tuesday", "Wednesday"]

/-- The short names of the months. -/
def monthNames : List String :=
  ["Jan", "Feb", "Mar", "Apr", "May", "Jun", "Jul", "Aug", "Sep", "Oct", "Nov", "Dec"]

/-- The name of the day of a number. -/
def weekdayName (number : Int) : String :=
  weekdayNames.getD (number % 7).toNat ""

/-- A number with zeros in front up to a width. -/
def paddedText (width n : Nat) : String :=
  let digits := decimalText n
  String.ofList (List.replicate (width - digits.length) '0') ++ digits

/-- The text of a date, year first. -/
def Date.isoText (date : Date) : String :=
  paddedText 4 date.year.toNat ++ "-" ++ paddedText 2 date.month ++ "-" ++ paddedText 2 date.day

end ChatFlow
