import ChatFlow.Text.Digit
import ChatFlow.Text.Quoted

/-!
# Faults of computing with values

Why reading a value, turning it into a number, computing a date or searching for a pattern can fail,
and the text of each reason.
-/

namespace ChatFlow

/-- Why a computation over values fails. -/
inductive Fault where
  /-- A segment of a path is made of digits without a decimal value, so it is no place in a list. -/
  | notDecimal (segment : String)
  /-- A whole number is beyond the range of floats. -/
  | integerTooLarge
  /-- An infinite number has no whole part. -/
  | infiniteToInteger
  /-- What is not a number has no whole part. -/
  | nanToInteger
  /-- A span has more days than a machine word counts. -/
  | dayCountTooWide
  /-- A span has more days than a span may have. -/
  | tooManyDays (days : Int)
  /-- A date lies outside the years 1 to 9999. -/
  | dateOutOfRange
  /-- A time stamp names a year beyond 9999. -/
  | yearOutOfRange (year : Int)
  /-- A time stamp names a year that the calendar's machine word cannot hold. -/
  | timeTooWide
  /-- A time stamp is too large for a machine word. -/
  | timestampTooWide
  /-- A search pattern repeats something more often than can be counted. -/
  | tooManyTurns
  /-- A search pattern switches on the modes for ASCII characters and for all characters. -/
  | asciiAndUnicode
  deriving DecidableEq, Repr

/-- The text of a fault. -/
def Fault.message : Fault → String
  | .notDecimal segment => "invalid literal for int() with base 10: " ++ quoted segment
  | .integerTooLarge => "int too large to convert to float"
  | .infiniteToInteger => "cannot convert float infinity to integer"
  | .nanToInteger => "cannot convert float NaN to integer"
  | .dayCountTooWide => "Python int too large to convert to C int"
  | .tooManyDays days => "days=" ++ integerText days ++ "; must have magnitude <= 999999999"
  | .dateOutOfRange => "date value out of range"
  | .yearOutOfRange year => "year " ++ integerText year ++ " is out of range"
  | .timeTooWide => "[Errno 75] Value too large for defined data type"
  | .timestampTooWide => "timestamp out of range for platform time_t"
  | .tooManyTurns => "the repetition number is too large"
  | .asciiAndUnicode => "ASCII and UNICODE flags are incompatible"

end ChatFlow
