import ChatFlow.Number.Reading
import ChatFlow.Text.Search

/-!
# Numbers in configurations

Editors store numbers as numbers or as texts. A text is read with white space around it; low lines
may separate its digits. A whole number may end in a point and zeros.
-/

namespace ChatFlow

/-- White space around a number in a configuration; the four ASCII separators do not count. -/
def isNumeralBlank (c : Char) : Bool :=
  isBlank c && !(0x1C ≤ c.toNat && c.toNat ≤ 0x1F)

/-- The most characters that a whole number may have. -/
def longestInteger : Nat := 4300

/-- Takes out the low lines of a text that neither begins nor ends with one nor has two in a row. -/
def withoutLowLines? (cs : List Char) : Option (List Char) :=
  if cs.head? == some '_' || cs.getLast? == some '_' || occursIn ['_', '_'] cs then none
  else some (cs.filter (· != '_'))

/-- Reads a float. -/
def readConfigFloat? (s : String) : Option Float :=
  let cs := trimList isNumeralBlank s.toList
  readPlainFloat? cs <|> (withoutLowLines? cs).bind readPlainFloat?

/-- Drops a point at the end that is followed by zeros only. -/
def dropZeroFraction (cs : List Char) : List Char :=
  match cs.dropWhile (· != '.') with
  | _ :: zeros => if zeros.all (· == '0') then cs.takeWhile (· != '.') else cs
  | [] => cs

/-- Reads the digits of a whole number. -/
def readConfigDigits? (cs : List Char) : Option Nat :=
  (withoutLowLines? (dropZeroFraction cs)).bind fun digits =>
    if digits.isEmpty || !digits.all isAsciiDigit then none
    else some (natOfDigits (digits.map asciiDigit))

/-- Reads a whole number. -/
def readConfigInteger? (s : String) : Option Int :=
  let (negative, digits) := takeSign (trimList isNumeralBlank s.toList)
  (readConfigDigits? digits).map fun n => if negative then -(n : Int) else n

/-- Whether a text has too many characters for a whole number. -/
def isTooLongInteger (s : String) : Bool :=
  longestInteger < (String.ofList (trimList isNumeralBlank s.toList)).utf8ByteSize

/-- The words for truth values, in any case of the ASCII letters. -/
def flagWords : List (String × Bool) :=
  [("0", false), ("off", false), ("f", false), ("false", false), ("n", false), ("no", false),
   ("1", true), ("on", true), ("t", true), ("true", true), ("y", true), ("yes", true)]

/-- Reads a truth value. -/
def readFlag? (s : String) : Option Bool :=
  flagWords.lookup (String.ofList (s.toList.map Char.toLower))

end ChatFlow
