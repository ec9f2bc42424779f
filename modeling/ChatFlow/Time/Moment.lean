import ChatFlow.Fault
import ChatFlow.Number.Reading
import ChatFlow.Time.Calendar

/-!
# Moments and spans

A moment is a number of microseconds from the start of 1970, and a span a number of microseconds. A
moment with a zone shows the time on a wall clock; `ZonedMoment.instant` is the moment that it
names. The text of a moment has its microseconds only if there are any.
-/

namespace ChatFlow

/-- A moment: microseconds from the start of 1970. -/
structure Moment where
  micros : Int
  deriving DecidableEq, Repr, Inhabited

/-- A span of time: microseconds. -/
structure Span where
  micros : Int
  deriving DecidableEq, Repr, Inhabited

/-- The microseconds of a second. -/
def microsPerSecond : Nat := 1000000

/-- The microseconds of an hour. -/
def microsPerHour : Nat := 3600 * microsPerSecond

/-- The microseconds of a day. -/
def microsPerDay : Nat := 24 * microsPerHour

/-- The greatest number of days of a span. -/
def mostDays : Nat := 999999999

/-- A span of so many microseconds, if it is not too long. -/
def Span.ofMicros (micros : Int) : Except Fault Span :=
  let days := micros / microsPerDay
  if days < -halfWordEnd ∨ halfWordEnd ≤ days then .error .dayCountTooWide
  else if mostDays < days.natAbs then .error (.tooManyDays days)
  else .ok ⟨micros⟩

/-- The nearest whole number to a sum of a whole number and a binary one; a half goes to the even
neighbour. -/
def roundSum (whole : Int) (part : Binary) : Int :=
  let n := whole * part.denominator + part.signed part.numerator
  let size := divHalfEven n.natAbs part.denominator
  if n < 0 then -size else size

/-- The span of so many units of some microseconds each. The whole units are exact; the fraction of
a unit is first a float of microseconds and then rounded. -/
def Span.ofUnits (unit : Nat) (count : Float) : Except Fault Span :=
  match Binary.ofFloat? count with
  | none => .error (if count == count then .infiniteToInteger else .nanToInteger)
  | some b =>
    let whole := b.truncate
    let fraction := Binary.toFloat ⟨b.negative, b.numerator % b.denominator, min b.exponent 0⟩
    match Binary.ofFloat? (Float.ofNat unit * fraction) with
    | none => .error .nanToInteger
    | some part => Span.ofMicros (roundSum (whole * unit) part)

/-- The seconds of a span. -/
def Span.seconds (span : Span) : Float :=
  let size := floatOfDecimal span.micros.natAbs (-6)
  if span.micros < 0 then -size else size

namespace Moment

/-- The day that a moment lies in, by number. -/
def dayNumber (moment : Moment) : Int := moment.micros / microsPerDay

/-- The microseconds from the start of the day. -/
def ofDay (moment : Moment) : Nat := (moment.micros % microsPerDay).toNat

/-- The date of a moment. -/
def date (moment : Moment) : Date := .ofDayNumber moment.dayNumber

/-- The start of the day of a moment. -/
def startOfDay (moment : Moment) : Moment := ⟨moment.dayNumber * microsPerDay⟩

/-- The moment of a time on a day. -/
def ofDayAndMicros (day : Int) (micros : Nat) : Moment := ⟨day * microsPerDay + micros⟩

/-- The moment itself, if it lies in the years that dates may lie in. -/
def inRange (moment : Moment) : Except Fault Moment :=
  if firstDay ≤ moment.dayNumber ∧ moment.dayNumber < endDay then .ok moment
  else .error .dateOutOfRange

/-- A moment later by a span, or earlier by a negative one. -/
def add (moment : Moment) (span : Span) : Except Fault Moment :=
  inRange ⟨moment.micros + span.micros⟩

/-- The span from a second moment to the first. -/
def since (moment other : Moment) : Span := ⟨moment.micros - other.micros⟩

/-- The hour of the day. -/
def hour (moment : Moment) : Nat := moment.ofDay / microsPerHour

/-- The minute of the hour. -/
def minute (moment : Moment) : Nat := moment.ofDay / (60 * microsPerSecond) % 60

/-- The second of the minute. -/
def second (moment : Moment) : Nat := moment.ofDay / microsPerSecond % 60

/-- The microsecond of the second. -/
def microsecond (moment : Moment) : Nat := moment.ofDay % microsPerSecond

/-- The time of day: hours, minutes and seconds. -/
def timeText (moment : Moment) : String :=
  paddedText 2 moment.hour ++ ":" ++ paddedText 2 moment.minute ++ ":"
    ++ paddedText 2 moment.second

/-- The text of a moment: date and time, with microseconds if there are any. -/
def isoText (moment : Moment) : String :=
  moment.date.isoText ++ "T" ++ moment.timeText ++
    (if moment.microsecond = 0 then "" else "." ++ paddedText 6 moment.microsecond)

/-- The date, with the year as it is. -/
def dateText (moment : Moment) : String :=
  let date := moment.date
  integerText date.year ++ "-" ++ paddedText 2 date.month ++ "-" ++ paddedText 2 date.day

/-- Weekday, day and time on a clock of twelve hours. -/
def readableText (moment : Moment) : String :=
  let date := moment.date
  let hour := if moment.hour % 12 = 0 then 12 else moment.hour % 12
  weekdayName moment.dayNumber ++ ", " ++ monthNames.getD (date.month - 1) "" ++ " "
    ++ paddedText 2 date.day ++ " at " ++ paddedText 2 hour ++ ":" ++ paddedText 2 moment.minute
    ++ (if moment.hour < 12 then " AM" else " PM")

/-- The microseconds that the digits after the point of a second name. -/
def fractionMicros (digits : List Char) : Nat :=
  let six := digits.take 6
  natOfDigits (six.map asciiDigit) * Nat.pow 10 (6 - six.length)

/-- Reads the text of a moment. -/
def ofIso? (text : String) : Option Moment :=
  let number (start count : Nat) : Option Nat :=
    let digits := (text.toList.drop start).take count
    if digits.length = count ∧ digits.all isAsciiDigit then
      some (natOfDigits (digits.map asciiDigit))
    else none
  match number 0 4, number 5 2, number 8 2, number 11 2, number 14 2, number 17 2 with
  | some year, some month, some day, some hour, some minute, some second =>
    let fraction := ((text.toList.drop 19).drop 1).takeWhile isAsciiDigit
    some (ofDayAndMicros (Date.mk year month day).dayNumber
      (((hour * 60 + minute) * 60 + second) * microsPerSecond + fractionMicros fraction))
  | _, _, _, _, _, _ => none

end Moment

/-- The distance of a clock's time from the prime meridian's, in microseconds. -/
structure Offset where
  micros : Int
  deriving DecidableEq, Repr

/-- The offset of so many minutes. -/
def Offset.ofMinutes (minutes : Int) : Offset := ⟨minutes * 60 * microsPerSecond⟩

/-- A number that stands for an offset counts minutes. -/
instance : Coe Int Offset := ⟨Offset.ofMinutes⟩

instance (minutes : Nat) : OfNat Offset minutes := ⟨Offset.ofMinutes minutes⟩

/-- The text of an offset: sign, hours and minutes, and what there is of seconds and of
microseconds. -/
def Offset.text (offset : Offset) : String :=
  let size := offset.micros.natAbs
  let minutes := size / (60 * microsPerSecond)
  let seconds := size / microsPerSecond % 60
  let micros := size % microsPerSecond
  (if offset.micros < 0 then "-" else "+") ++ paddedText 2 (minutes / 60) ++ ":"
    ++ paddedText 2 (minutes % 60)
    ++ (if seconds = 0 ∧ micros = 0 then "" else ":" ++ paddedText 2 seconds)
    ++ (if micros = 0 then "" else "." ++ paddedText 6 micros)

/-- The time that a wall clock shows, with its distance from the prime meridian's time if it is
known. -/
structure ZonedMoment where
  wall : Moment
  offset : Option Offset
  deriving DecidableEq, Repr

namespace ZonedMoment

/-- The text of a time, with its offset if it is known. -/
def isoText (time : ZonedMoment) : String :=
  time.wall.isoText ++ (time.offset.map Offset.text).getD ""

/-- The moment that a time names. A clock without an offset shows the prime meridian's time. -/
def instant (time : ZonedMoment) : Except Fault Moment :=
  match time.offset with
  | none => .ok time.wall
  | some offset => Moment.inRange ⟨time.wall.micros - offset.micros⟩

/-- A time later by a span on the same clock. -/
def add (time : ZonedMoment) (span : Span) : Except Fault ZonedMoment :=
  return { time with wall := ← time.wall.add span }

/-- The seconds from the start of 1970. -/
def unixSeconds (time : ZonedMoment) : Float :=
  match time.offset with
  | some offset => Span.seconds ⟨time.wall.micros - offset.micros⟩
  | none =>
    Float.ofInt (time.wall.micros / microsPerSecond) +
      Span.seconds ⟨time.wall.micros % microsPerSecond⟩

end ZonedMoment

/-- The moment of a time stamp in whole seconds from the start of 1970. -/
def momentOfTimestamp (seconds : Nat) : Except Fault Moment :=
  let date := Date.ofDayNumber (seconds / 86400 : Nat)
  if wordEnd ≤ seconds then .error .timestampTooWide
  else if halfWordEnd + 1900 ≤ date.year then .error .timeTooWide
  else if lastYear < date.year then .error (.yearOutOfRange date.year)
  else .ok ⟨seconds * microsPerSecond⟩

/-- A clock: the moment it shows, and the zone in which nodes see it. A zone of no offset is a clock
that does not tell its zone. -/
structure Clock where
  now : Moment
  zone : Option Offset
  deriving DecidableEq, Repr

/-- The time as nodes see it. -/
def Clock.seen (clock : Clock) : ZonedMoment :=
  ⟨⟨clock.now.micros + (clock.zone.getD 0).micros⟩, clock.zone⟩

end ChatFlow
