import ChatFlow.Text.Blank
import ChatFlow.Text.Digit
import ChatFlow.Number.Binary

/-!
# Reading numbers from text

A number is written as an optional sign and either `inf`, `infinity` or `nan` in any case, or digits
with an optional decimal point among or around them and an optional exponent. `readFloat?` accepts
the digits of every script, white space around, and single low lines between digits.
-/

namespace ChatFlow

/-- Whether the character is one of the ten ASCII digits. -/
def isAsciiDigit (c : Char) : Bool := '0' ≤ c && c ≤ '9'

/-- The value of an ASCII digit. -/
def asciiDigit (c : Char) : Nat := c.toNat - '0'.toNat

/-- Splits off a sign and tells whether it was a minus. -/
def takeSign : List Char → Bool × List Char
  | '-' :: rest => (true, rest)
  | '+' :: rest => (false, rest)
  | rest => (false, rest)

/-- The float nearest to `digits · 10 ^ power`. Powers that leave the range whatever the digits are
decided by the number of digits, so that no huge power is computed. -/
def floatOfDecimal (digits : Nat) (power : Int) : Float :=
  let size : Int := power + (Nat.toDigits 10 digits).length
  if digits = 0 then 0.0
  else if 310 < size then infinity
  else if size < -330 then 0.0
  else if 0 ≤ power then Float.ofScientific digits false power.toNat
  else Float.ofScientific digits true (-power).toNat

/-- Reads the exponent that may follow the digits; nothing else may follow them. -/
def readExponent? : List Char → Option Int
  | [] => some 0
  | 'e' :: rest | 'E' :: rest =>
    let (negative, digits) := takeSign rest
    if digits.isEmpty || !digits.all isAsciiDigit then none
    else
      let size : Int := natOfDigits (digits.map asciiDigit)
      some (if negative then -size else size)
  | _ => none

/-- Reads digits with an optional point and exponent. -/
def readDecimal? (cs : List Char) : Option Float :=
  let whole := cs.takeWhile isAsciiDigit
  let rest := cs.dropWhile isAsciiDigit
  let (fraction, rest) :=
    match rest with
    | '.' :: after => (after.takeWhile isAsciiDigit, after.dropWhile isAsciiDigit)
    | other => ([], other)
  if whole.isEmpty && fraction.isEmpty then none
  else (readExponent? rest).map fun exponent =>
    floatOfDecimal (natOfDigits ((whole ++ fraction).map asciiDigit)) (exponent - fraction.length)

/-- Reads a number in ASCII, without space around it and without low lines. -/
def readPlainFloat? (cs : List Char) : Option Float :=
  let (negative, size) := takeSign cs
  let word := String.ofList (size.map Char.toLower)
  let value? : Option Float :=
    if word = "inf" || word = "infinity" then some infinity
    else if word = "nan" then some notANumber
    else readDecimal? size
  value?.map fun value => if negative then -value else value

/-- Takes out the low lines of a text, each of which must stand between two digits. -/
def dropLowLines? (before : Option Char) : List Char → Option (List Char)
  | [] => some []
  | '_' :: rest =>
    if before.any isAsciiDigit && rest.head?.any isAsciiDigit then dropLowLines? none rest
    else none
  | c :: rest => (dropLowLines? (some c) rest).map (c :: ·)

/-- Puts the ASCII digit in the place of a decimal digit of any script. -/
def asciiForDigit (c : Char) : Char :=
  match decimalDigit? c with
  | some d => Char.ofNat ('0'.toNat + d)
  | none => c

/-- Reads a number, with white space around it, digits of every script and low lines between
digits. -/
def readFloat? (s : String) : Option Float :=
  (dropLowLines? none ((trimList isBlank s.toList).map asciiForDigit)).bind readPlainFloat?

end ChatFlow
